import BlueprintBridge.Proofs.Graph.Change

/-!
# No class is its own ancestor

In every reachable graph a stored parent is a reference that was issued. So a new class, also one
in the slot of an old ancestor, is nobody's parent when it is added, and a class that moves goes
under one that does not derive from it: no cycle ever closes. Hence the way up from any reference
visits no class twice, and ends within the bound of `lineage`.
-/

namespace BlueprintBridge.TypeGraph

set_option autoImplicit false

variable {g next : TypeGraph} {ref parent base : ClassRef}

def Link (g : TypeGraph) (ref parent : ClassRef) : Prop :=
  ∃ c, g.class? ref = some c ∧ c.superClass = some parent

/-- Whether links lead up from a class to an ancestor, or the two are one. -/
abbrev Ascends (g : TypeGraph) : ClassRef → ClassRef → Prop := Relation.ReflTransGen g.Link

/-- No class is its own proper ancestor. -/
def Acyclic (g : TypeGraph) : Prop := ∀ ref, ¬ Relation.TransGen g.Link ref ref

/-- A graph whose links name issued references and close no cycle. -/
structure Rooted (g : TypeGraph) : Prop where
  table : g.classes.Sound
  issued : ∀ ref parent, g.Link ref parent → g.classes.Issued parent
  acyclic : g.Acyclic

theorem link_iff : g.Link ref parent ↔ g.parent? ref = some parent := by
  rw [parent?, Option.bind_eq_some_iff]
  rfl

theorem Link.live (link : g.Link ref parent) : g.classes.contains ref = true := by
  obtain ⟨c, found, _⟩ := link
  exact SlotTable.contains_iff.mpr ⟨c, found⟩

theorem ascends_parent (link : g.parent? ref = some parent) (apart : ref ≠ base) :
    g.Ascends ref base ↔ g.Ascends parent base := by
  constructor
  · intro path
    rcases path.cases_head with same | ⟨above, other, rest⟩
    · exact absurd same apart
    · rw [link_iff, link] at other
      cases other
      exact rest
  · exact .head (link_iff.mpr link)

theorem not_ascends_top (top : g.parent? ref = none) (apart : ref ≠ base) :
    ¬ g.Ascends ref base := by
  intro path
  rcases path.cases_head with same | ⟨above, link, _⟩
  · exact apart same
  · rw [link_iff, top] at link
    cases link

/-- The climb from a class in search of `base`, without a bound: the references visited, in order,
and the answer. -/
inductive Search (g : TypeGraph) (base : ClassRef) : ClassRef → List ClassRef → Bool → Prop where
  | found : Search g base base [base] true
  | lost {ref : ClassRef} (apart : ref ≠ base) (top : g.parent? ref = none) :
      Search g base ref [ref] false
  | up {ref parent : ClassRef} {visited : List ClassRef} {answer : Bool} (apart : ref ≠ base)
      (link : g.parent? ref = some parent) (later : Search g base parent visited answer) :
      Search g base ref (ref :: visited) answer

/-- A climb finds `base` exactly when links lead up to it. -/
theorem Search.answers {visited : List ClassRef} {answer : Bool}
    (search : g.Search base ref visited answer) : answer = true ↔ g.Ascends ref base := by
  induction search with
  | found => exact ⟨fun _ => .refl, fun _ => rfl⟩
  | lost apart top => exact iff_of_false Bool.false_ne_true (not_ascends_top top apart)
  | up apart link later ih => rw [ih, ascends_parent link apart]

theorem Search.unique {visited others : List ClassRef} {answer other : Bool}
    (search : g.Search base ref visited answer) (again : g.Search base ref others other) :
    others = visited ∧ other = answer := by
  induction search generalizing others other with
  | found =>
      cases again with
      | found => exact ⟨rfl, rfl⟩
      | lost apart _ | up apart _ _ => exact absurd rfl apart
  | lost apart top =>
      cases again with
      | found => exact absurd rfl apart
      | lost => exact ⟨rfl, rfl⟩
      | up _ link _ =>
          rw [top] at link
          cases link
  | up apart link later ih =>
      cases again with
      | found => exact absurd rfl apart
      | lost _ top =>
          rw [link] at top
          cases top
      | up _ same rest =>
          rw [link] at same
          cases same
          obtain ⟨rfl, rfl⟩ := ih rest
          exact ⟨rfl, rfl⟩

theorem mem_lineage_within {links : Nat} {other : ClassRef}
    (member : other ∈ g.lineageWithin links ref) : g.Ascends ref other := by
  induction links generalizing ref with
  | zero =>
      rw [List.mem_singleton.mp member]
  | succ links ih =>
      unfold lineageWithin at member
      split at member
      · next parent link =>
          rcases List.mem_cons.mp member with rfl | above
          · exact .refl
          · exact .head (link_iff.mpr link) (ih above)
      · rw [List.mem_singleton.mp member]

theorem lineage_within_nodup (acyclic : g.Acyclic) (links : Nat) (ref : ClassRef) :
    (g.lineageWithin links ref).Nodup := by
  induction links generalizing ref with
  | zero => exact List.pairwise_singleton _ ref
  | succ links ih =>
      unfold lineageWithin
      split
      · next parent link =>
          refine List.nodup_cons.mpr ⟨?_, ih parent⟩
          intro again
          exact acyclic ref (.head' (link_iff.mpr link) (mem_lineage_within again))
      · exact List.pairwise_singleton _ ref

/-- Within a number of links a climb either ends, or leaves a live class by each of them. -/
theorem search_or_long (g : TypeGraph) (base : ClassRef) (links : Nat) (ref : ClassRef) :
    (∃ visited, visited <+: g.lineageWithin links ref ∧
      g.Search base ref visited (decide (base ∈ g.lineageWithin links ref))) ∨
    ((g.lineageWithin links ref).length = links + 1 ∧
      ∀ other ∈ g.lineageWithin links ref, g.classes.contains other = true) := by
  have top (ref : ClassRef) (none : g.parent? ref = none) :
      ∃ visited, visited <+: [ref] ∧ g.Search base ref visited (decide (base ∈ [ref])) := by
    refine ⟨[ref], List.prefix_rfl, ?_⟩
    by_cases same : ref = base
    · subst same
      simpa using Search.found
    · have apart : base ∉ [ref] := fun member => same (List.mem_singleton.mp member).symm
      rw [decide_eq_false apart]
      exact .lost same none
  induction links generalizing ref with
  | zero =>
      cases link : g.parent? ref with
      | none => exact .inl (top ref link)
      | some parent =>
          right
          refine ⟨rfl, fun other member => ?_⟩
          rw [List.mem_singleton.mp member]
          exact (link_iff.mpr link).live
  | succ links ih =>
      unfold lineageWithin
      cases link : g.parent? ref with
      | none => exact .inl (top ref link)
      | some parent =>
          by_cases same : ref = base
          · subst same
            left
            refine ⟨[ref], List.prefix_append [ref] _, ?_⟩
            simpa using Search.found
          · rcases ih parent with ⟨visited, early, search⟩ | ⟨long, live⟩
            · left
              refine ⟨ref :: visited, List.cons_prefix_cons.mpr ⟨rfl, early⟩, ?_⟩
              have apart : ¬ base = ref := fun equal => same equal.symm
              have up := Search.up same link search
              simpa [apart] using up
            · right
              refine ⟨by rw [List.length_cons, long], fun other member => ?_⟩
              rcases List.mem_cons.mp member with rfl | above
              · exact (link_iff.mpr link).live
              · exact live other above

/-- The unbounded climb ends, visits nothing twice, and answers as the bounded one. -/
theorem Acyclic.search (acyclic : g.Acyclic) (sound : g.classes.Sound) (ref base : ClassRef) :
    ∃ visited, visited.Nodup ∧ g.Search base ref visited (g.derivesFrom ref base) := by
  have nodup := lineage_within_nodup acyclic g.classes.size ref
  rcases g.search_or_long base g.classes.size ref with ⟨visited, early, search⟩ | ⟨long, live⟩
  · exact ⟨visited, nodup.sublist early.sublist, search⟩
  -- Too long a climb would have left more live classes than there are.
  · have short := sound.live_le_size nodup live
    omega

theorem Acyclic.derives_iff (acyclic : g.Acyclic) (sound : g.classes.Sound) (ref base : ClassRef) :
    g.derivesFrom ref base = true ↔ g.Ascends ref base := by
  obtain ⟨_, _, search⟩ := acyclic.search sound ref base
  exact search.answers

theorem Rooted.search (rooted : g.Rooted) (ref base : ClassRef) :
    ∃ visited, visited.Nodup ∧ g.Search base ref visited (g.derivesFrom ref base) :=
  rooted.acyclic.search rooted.table ref base

theorem Rooted.derives_iff (rooted : g.Rooted) (ref base : ClassRef) :
    g.derivesFrom ref base = true ↔ g.Ascends ref base :=
  rooted.acyclic.derives_iff rooted.table ref base

theorem acyclic_of_fewer (acyclic : g.Acyclic)
    (kept : ∀ ref parent, next.Link ref parent → g.Link ref parent) : next.Acyclic := by
  intro ref cycle
  exact acyclic ref (Relation.TransGen.mono kept _ _ cycle)

/-- A class that no link names as a parent lies on no cycle, so only the old links could close
one. -/
theorem acyclic_of_leaf (leaf : ClassRef) (acyclic : g.Acyclic)
    (unnamed : ∀ ref, ¬ next.Link ref leaf)
    (kept : ∀ ref parent, ref ≠ leaf → next.Link ref parent → g.Link ref parent) :
    next.Acyclic := by
  have target {ref above : ClassRef} (path : Relation.TransGen next.Link ref above) :
      above ≠ leaf := by
    rintro rfl
    obtain ⟨below, _, link⟩ := Relation.TransGen.tail'_iff.mp path
    exact unnamed below link
  -- A path that starts elsewhere never comes to the leaf, so its links are old ones.
  have older {ref above : ClassRef} (path : Relation.TransGen next.Link ref above)
      (apart : ref ≠ leaf) : Relation.TransGen g.Link ref above := by
    induction path using Relation.TransGen.head_induction_on with
    | single link => exact .single (kept _ _ apart link)
    | head link rest ih => exact .head (kept _ _ apart link) (ih (target (.single link)))
  intro ref cycle
  exact acyclic ref (older cycle (target cycle))

/-- A path of new links is one of old links, or runs through the moved class and its new
parent. -/
theorem path_of_moved {below above : ClassRef}
    (moved : ∀ ref parent, next.Link ref parent →
      g.Link ref parent ∨ ref = below ∧ parent = above) {other : ClassRef}
    (path : Relation.TransGen next.Link ref other) :
    Relation.TransGen g.Link ref other ∨ g.Ascends ref below ∧ g.Ascends above other := by
  induction path with
  | single link =>
      rcases moved _ _ link with old | ⟨rfl, rfl⟩
      · exact .inl (.single old)
      · exact .inr ⟨.refl, .refl⟩
  | tail _ link ih =>
      rcases moved _ _ link with old | ⟨rfl, rfl⟩
      · rcases ih with path | ⟨up, down⟩
        · exact .inl (path.tail old)
        · exact .inr ⟨up, down.tail old⟩
      · rcases ih with path | ⟨up, _⟩
        · exact .inr ⟨path.to_reflTransGen, .refl⟩
        · exact .inr ⟨up, .refl⟩

/-- A class that moves under one that does not derive from it closes no cycle. -/
theorem acyclic_of_moved {below above : ClassRef} (acyclic : g.Acyclic)
    (apart : ¬ g.Ascends above below)
    (moved : ∀ ref parent, next.Link ref parent →
      g.Link ref parent ∨ ref = below ∧ parent = above) : next.Acyclic := by
  intro ref cycle
  rcases path_of_moved moved cycle with old | ⟨up, down⟩
  · exact acyclic ref old
  · exact apart (down.trans up)

theorem Reparenting.link_cases (reparenting : Reparenting g next) (link : next.Link ref parent) :
    g.Link ref parent ∨ g.classes.contains parent = true := by
  rw [link_iff] at link ⊢
  cases reparenting with
  | kept parents =>
      rw [parents] at link
      exact .inl link
  | added leaf superClass new live parents =>
      rw [parents] at link
      split at link
      · exact .inr (live parent link)
      · exact .inl link
  | removed gone parents =>
      rw [parents] at link
      split at link
      · cases link
      · exact .inl link
  | moved below above live apart parents =>
      rw [parents] at link
      split at link
      · rw [← Option.some.inj link]
        exact .inr live
      · exact .inl link

theorem Reparenting.acyclic (reparenting : Reparenting g next) (rooted : g.Rooted) :
    next.Acyclic := by
  cases reparenting with
  | kept parents =>
      apply acyclic_of_fewer rooted.acyclic
      intro ref parent link
      rw [link_iff, parents] at link
      exact link_iff.mpr link
  | added leaf superClass new live parents =>
      apply acyclic_of_leaf leaf rooted.acyclic
      -- Every parent was issued before; the leaf was not.
      · intro ref link
        rcases (Reparenting.added leaf superClass new live parents).link_cases link with old | alive
        · exact new (rooted.issued ref leaf old)
        · exact new (SlotTable.issued_of_contains alive)
      · intro ref parent apart link
        rw [link_iff, parents, if_neg apart] at link
        exact link_iff.mpr link
  | removed gone parents =>
      apply acyclic_of_fewer rooted.acyclic
      intro ref parent link
      rw [link_iff, parents] at link
      split at link
      · cases link
      · exact link_iff.mpr link
  | moved below above live apart parents =>
      have notAbove : ¬ g.Ascends above below := by
        rw [← rooted.derives_iff, apart]
        exact Bool.false_ne_true
      apply acyclic_of_moved rooted.acyclic notAbove
      intro ref parent link
      rw [link_iff, parents] at link
      split at link
      · next same => exact .inr ⟨same, (Option.some.inj link).symm⟩
      · exact .inl (link_iff.mpr link)

theorem Change.rooted (change : Change g next) (rooted : g.Rooted) : next.Rooted where
  table := change.sound rooted.table
  issued ref parent link := by
    apply change.issued rooted.table
    rcases (change.reparenting rooted.table).link_cases link with old | live
    · exact rooted.issued ref parent old
    · exact SlotTable.issued_of_contains live
  acyclic := (change.reparenting rooted.table).acyclic rooted

theorem Rooted.of_classes (rooted : g.Rooted) (classes : next.classes = g.classes) :
    next.Rooted := by
  have links (ref parent : ClassRef) : next.Link ref parent ↔ g.Link ref parent := by
    rw [link_iff, link_iff, parent_of_classes classes]
  exact {
    table := classes ▸ rooted.table
    issued := fun ref parent link => by
      rw [classes]
      exact rooted.issued ref parent ((links ref parent).mp link)
    acyclic := acyclic_of_fewer rooted.acyclic fun ref parent => (links ref parent).mp }

theorem initial_link (link : initial.Link ref parent) :
    ref = initial.componentClass ∧ parent = initial.objectClass := by
  obtain ⟨c, found, named⟩ := link
  have slot := (SlotTable.get_eq_some.mp found).2
  obtain ⟨index, generation⟩ := ref
  have slots : initial.classes.slots = [⟨0, some { name := objectName }⟩,
      ⟨0, some { name := componentName, superClass := some initial.objectClass }⟩] := rfl
  rw [slots] at slot
  generalize number : index.toNat = position at slot
  match position with
  | 0 =>
      cases slot
      cases named
  | 1 =>
      cases slot
      cases named
      have component : index = 1 := UInt32.toNat_inj.mp number
      rw [component]
      exact ⟨rfl, rfl⟩
  | position + 2 => cases slot

theorem rooted_initial : initial.Rooted where
  table := (SlotTable.sound_empty.insert _).insert _
  issued ref parent link := by
    obtain ⟨_, rfl⟩ := initial_link link
    exact SlotTable.issued_of_contains (by decide)
  acyclic ref cycle := by
    obtain ⟨above, up, _⟩ := Relation.TransGen.head'_iff.mp cycle
    obtain ⟨below, _, down⟩ := Relation.TransGen.tail'_iff.mp cycle
    have component := (initial_link up).1
    rw [(initial_link down).2] at component
    exact absurd component (by decide)

theorem Reachable.rooted (reachable : Reachable g) : g.Rooted := by
  induction reachable with
  | refl => exact rooted_initial
  | tail _ change ih => exact change.rooted ih

/-- What the way up amounts to. References of all kinds count: live, stale, to nothing, or never
handed out. -/
structure Hierarchy (g : TypeGraph) : Prop where
  acyclic : g.Acyclic
  /-- The climb visits nothing twice, ends, and answers as the bounded one. -/
  climb : ∀ ref base, ∃ visited, visited.Nodup ∧ ∀ others answer,
    g.Search base ref others answer ↔ others = visited ∧ answer = g.derivesFrom ref base
  derives_iff : ∀ ref base, g.derivesFrom ref base = true ↔ g.Ascends ref base
  derives_refl : ∀ ref, g.derivesFrom ref ref = true
  derives_antisymm : ∀ ref base, g.derivesFrom ref base = true → g.derivesFrom base ref = true →
    ref = base
  derives_trans : ∀ ref middle base, g.derivesFrom ref middle = true →
    g.derivesFrom middle base = true → g.derivesFrom ref base = true

theorem reachable_is_hierarchy (g : TypeGraph) (reachable : Reachable g) : g.Hierarchy where
  acyclic := reachable.rooted.acyclic
  climb ref base := by
    obtain ⟨visited, nodup, search⟩ := reachable.rooted.search ref base
    refine ⟨visited, nodup, fun others answer => ⟨search.unique, ?_⟩⟩
    rintro ⟨rfl, rfl⟩
    exact search
  derives_iff := reachable.rooted.derives_iff
  derives_refl ref := (reachable.rooted.derives_iff ref ref).mpr .refl
  derives_antisymm ref base up down := by
    rw [reachable.rooted.derives_iff] at up down
    rcases Relation.reflTransGen_iff_eq_or_transGen.mp up with same | path
    · exact same.symm
    · exact absurd (path.trans_left down) (reachable.rooted.acyclic ref)
  derives_trans ref middle base first second := by
    rw [reachable.rooted.derives_iff] at first second ⊢
    exact first.trans second

def adding (g : TypeGraph) (c : ManagedClass) : TypeGraph :=
  match g.addClass c with
  | .ok (_, next) => next
  | .error _ => g

theorem Reachable.adding (reachable : Reachable g) (c : ManagedClass) : Reachable (g.adding c) := by
  unfold TypeGraph.adding
  split
  · next added => exact reachable.tail (.addClass added)
  · exact reachable

def reusedSlot : TypeGraph :=
  (((initial.adding { name := ⟨"Game", "", "Pawn"⟩, superClass := some ⟨0, 0⟩ }).adding
    { name := ⟨"Game", "", "Player"⟩, superClass := some ⟨2, 0⟩ }).removeClass ⟨2, 0⟩).2.adding
    { name := ⟨"Game", "", "Rider"⟩, superClass := some ⟨3, 0⟩ }

theorem reused_slot_reachable : Reachable reusedSlot := by
  have pawn := Reachable.adding .refl { name := ⟨"Game", "", "Pawn"⟩, superClass := some ⟨0, 0⟩ }
  have player := pawn.adding { name := ⟨"Game", "", "Player"⟩, superClass := some ⟨2, 0⟩ }
  have removed := player.tail (.removeClass _ ⟨2, 0⟩ fun _ => by decide)
  exact Reachable.adding removed { name := ⟨"Game", "", "Rider"⟩, superClass := some ⟨3, 0⟩ }

/-- The rider derives from the pawn that it replaces in its slot, and not the other way round. -/
theorem reused_slot_is_hierarchy :
    Reachable reusedSlot ∧ reusedSlot.parent? ⟨2, 1⟩ = some ⟨3, 0⟩ ∧
      reusedSlot.parent? ⟨3, 0⟩ = some ⟨2, 0⟩ ∧ reusedSlot.derivesFrom ⟨2, 1⟩ ⟨2, 0⟩ = true ∧
      reusedSlot.derivesFrom ⟨2, 0⟩ ⟨2, 1⟩ = false ∧ reusedSlot.Hierarchy :=
  ⟨reused_slot_reachable, by decide +kernel, by decide +kernel, by decide +kernel,
    by decide +kernel, reachable_is_hierarchy reusedSlot reused_slot_reachable⟩

end BlueprintBridge.TypeGraph
