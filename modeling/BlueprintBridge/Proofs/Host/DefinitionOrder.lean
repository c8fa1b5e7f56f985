import BlueprintBridge.Proofs.Graph.Growth
import BlueprintBridge.Proofs.Host.QuietSubscribers

/-!
# The order of definitions

A definition that comes before its parent is parked, and made when the parked ones are retried. So
it does not matter in which order new classes are defined: which of them are registered, under
which parents, and which stay parked depends on their chains of parent names alone. The classes
are announced in another order then, but always once, and after their parents.
-/

namespace BlueprintBridge.AssemblyHost

set_option autoImplicit false

variable {σ H : Type}

def told (channels : Channels H) (news : Announcement) : List (Announcement × H) :=
  (channels.get news.kind).handlers.map fun handler => (news, handler.2)

def remember (_ : AssemblyHost H) (news : Announcement) (handler : H)
    (seen : List (Announcement × H)) : List (Announcement × H) :=
  seen ++ [(news, handler)]

theorem foldl_remember (host : AssemblyHost H) (news : Announcement) (handlers : List H)
    (seen : List (Announcement × H)) :
    handlers.foldl (fun seen handler => remember host news handler seen) seen =
      seen ++ handlers.map fun handler => (news, handler) := by
  induction handlers generalizing seen with
  | nil => simp
  | cons handler rest ih =>
      rw [List.foldl_cons, ih, remember, List.append_assoc]
      rfl

theorem foldl_heard (host : AssemblyHost H) (all : List Announcement)
    (seen : List (Announcement × H)) :
    all.foldl (heard remember host) seen = seen ++ all.flatMap (told host.channels) := by
  induction all generalizing seen with
  | nil => simp
  | cons news rest ih =>
      rw [List.foldl_cons, ih, heard, foldl_remember, List.append_assoc, List.flatMap_cons]
      simp only [listeners, told, List.map_map]
      rfl

def newClasses (order : List (ClassDefinition × ClassRef)) : List Announcement :=
  order.map fun entry => .newClass entry.2

namespace Site

/-- No subscriber calls back; `log` shows what they heard. -/
abbrev Quiet (site : Site σ H) (log : σ → List (Announcement × H)) : Prop :=
  site.QuietSubscribers (fun _ => True) log remember

def defineAll (site : Site σ H) (ds : List ClassDefinition) : Action σ Nat := do
  ds.forM fun d => do
    let _ ← site.defineClass d
  site.processPending

/-- What defining new classes makes of a host, in terms that leave their order aside. -/
structure Outcome (site : Site σ H) (ds : List ClassDefinition) (s t : σ) : Prop where
  kept_names : ∀ name ref, (site.host.read s).graph.findClass? name = some ref →
    (site.host.read t).graph.findClass? name = some ref
  kept_classes : ∀ ref c, (site.host.read s).graph.class? ref = some c →
    (site.host.read t).graph.class? ref = some c
  registered : ∀ name, ((site.host.read t).graph.findClass? name).isSome = true ↔
    ((site.host.read s).graph.findClass? name).isSome = true ∨
      ∃ d ∈ ds, (site.host.read s).graph.Resolvable ds d ∧ d.name = name
  parents : ∀ d ∈ ds, (site.host.read s).graph.Resolvable ds d →
    (site.host.read t).graph.parentName? d.name = (site.host.read s).graph.rootedName? d
  parked : ∀ d, d ∈ (site.host.read t).parked ↔
    d ∈ ds ∧ ¬ (site.host.read s).graph.Resolvable ds d
  in_order : (site.host.read t).parked.Sublist ds
  /-- Definitions on a cycle stay parked. -/
  cyclic : ∀ d ∈ ds, Relation.TransGen (TypeGraph.Under ds) d d → d ∈ (site.host.read t).parked
  /-- So do definitions whose chain comes to a name that nobody gives. -/
  missing : ∀ d ∈ ds, ∀ low name, Relation.ReflTransGen (TypeGraph.Under ds) d low →
    low.superName = some name → (site.host.read s).graph.findClass? name = none →
    (∀ other ∈ ds, other.name ≠ name) → d ∈ (site.host.read t).parked

/-- What was announced meanwhile: each registered class once, after its parent, and then the
retrying. -/
structure Announced (site : Site σ H) (log : σ → List (Announcement × H))
    (ds : List ClassDefinition) (s t : σ) (order : List (ClassDefinition × ClassRef))
    (processed : Nat) : Prop where
  once : (order.map Prod.fst).Nodup
  apart : (order.map Prod.snd).Nodup
  complete : ∀ d, d ∈ order.map Prod.fst ↔ d ∈ ds ∧ (site.host.read s).graph.Resolvable ds d
  named : ∀ d ref, (d, ref) ∈ order → (site.host.read t).graph.findClass? d.name = some ref
  parents_first : ∀ before d ref after, order = before ++ (d, ref) :: after →
    ∀ above ∈ ds, d.superName = some above.name → above ∈ before.map Prod.fst
  heard : log t = log s ++ (newClasses order ++
    [Announcement.pendingProcessed processed (site.host.read t).parked.length]).flatMap
      (told (site.host.read s).channels)

theorem Outcome.unregistered {site : Site σ H} {ds : List ClassDefinition} {s t : σ}
    {d : ClassDefinition} (outcome : site.Outcome ds s t)
    (fresh : (site.host.read s).graph.Fresh ds) (given : d ∈ ds)
    (stays : ¬ (site.host.read s).graph.Resolvable ds d) :
    (site.host.read t).graph.findClass? d.name = none := by
  cases found : (site.host.read t).graph.findClass? d.name with
  | none => rfl
  | some ref =>
      have registered := (outcome.registered d.name).mp (by rw [found]; rfl)
      rcases registered with old | ⟨other, member, resolvable, same⟩
      · rw [fresh.free d given] at old
        cases old
      · rw [List.inj_on_of_nodup_map fresh.names member given same] at resolvable
        exact absurd resolvable stays

variable {site : Site σ H} {log : σ → List (Announcement × H)} {s : σ}

/-- Definitions made one after the other lead from stage to stage. -/
theorem define_each (quiet : site.Quiet log) {g₀ : TypeGraph} {ds : List ClassDefinition}
    (fresh : g₀.Fresh ds) (rest : List ClassDefinition)
    {made : List (ClassDefinition × ClassRef)} {host : AssemblyHost H}
    {seen : List (Announcement × H)} (rests : site.Rests (fun _ => True) log s host seen)
    (stage : g₀.Stage ds made (host.parked ++ rest) host.graph) :
    ∃ t next more, (rest.forM fun d => do let _ ← site.defineClass d) s = .ok () t ∧
      site.Rests (fun _ => True) log t next
        (seen ++ (newClasses more).flatMap (told host.channels)) ∧
      g₀.Stage ds (made ++ more) next.parked next.graph ∧
      next.channels = host.channels ∧ ∃ parked, next.parked = host.parked ++ parked ∧
        parked.Sublist rest := by
  induction rest generalizing s made host seen with
  | nil =>
      refine ⟨s, host, [], rfl, by simpa [newClasses] using rests, by simpa using stage, rfl, [],
        by simp, ?_⟩
      exact List.Sublist.slnil
  | cons d rest ih =>
      obtain ⟨t, run, later⟩ := quiet.define_class d rests
      have ran : (do let _ ← site.defineClass d : Action σ Unit) s = .ok () t :=
        Action.bind_of_ok run
      rw [foldl_heard] at later
      rcases stage.generate fresh with ⟨_, orphan⟩ | ⟨ref, graph, generated, following⟩
      · simp only [defined, newsOfDefining, orphan] at later
        obtain ⟨finish, next, more, runs, last, reached, channels, parked, same, short⟩ :=
          ih later (by simpa using stage)
        refine ⟨finish, next, more, (Action.bind_of_ok ran).trans runs, by simpa using last,
          reached, channels, d :: parked, by simp [same], short.cons_cons d⟩
      · simp only [defined, newsOfDefining, generated] at later
        obtain ⟨finish, next, more, runs, last, reached, channels, parked, same, short⟩ :=
          ih later following
        refine ⟨finish, next, (d, ref) :: more, (Action.bind_of_ok ran).trans runs,
          by simpa [newClasses] using last, by simpa using reached, channels, parked, same, short.cons d⟩

theorem define_all (quiet : site.Quiet log) {ds : List ClassDefinition}
    (fresh : (site.host.read s).graph.Fresh ds) (unparked : (site.host.read s).parked = []) :
    ∃ processed t, site.defineAll ds s = .ok processed t ∧ site.Outcome ds s t ∧
      ∃ order, site.Announced log ds s t order processed := by
  have start : site.Rests (fun _ => True) log s (site.host.read s) (log s) := ⟨trivial, rfl, rfl⟩
  have first : (site.host.read s).graph.Stage ds [] ((site.host.read s).parked ++ ds)
      (site.host.read s).graph := by
    rw [unparked]
    exact fresh.stage
  obtain ⟨middle, host, early, defining, rests, stage, channels, parked, sameParked, short⟩ :=
    define_each quiet fresh ds start first
  obtain ⟨late, advance, stuck⟩ := stage.settle fresh
  obtain ⟨t, retrying, last⟩ := quiet.process_pending rests
  have final : (site.host.read s).graph.Stage ds (early ++ late) (site.host.read t).parked
      (site.host.read t).graph := by
    rw [last.host]
    exact advance.stage
  have stuck : ∀ d ∈ (site.host.read t).parked,
      (site.host.read t).graph.parentFor? d = none := by
    rw [last.host]
    exact stuck
  have stays := final.waiting_iff fresh stuck
  have names := final.names_nodup fresh
  rw [List.map_append, List.nodup_append] at names
  refine ⟨_, t, (Action.bind_of_ok defining).trans retrying, ?_, early ++ late, ?_⟩
  · exact {
      kept_names := fun name ref found => (final.names name ref).mpr (.inl found)
      kept_classes := final.kept
      registered := final.registered_iff stuck
      parents := fun d given resolvable =>
        final.resolvable_parent_name fresh stuck given resolvable
      parked := stays
      in_order := by
        rw [last.host]
        refine advance.parked.trans ?_
        rw [sameParked, unparked]
        exact short
      cyclic := fun d given cycle => (stays d).mpr ⟨given, fresh.cycle_not_resolvable cycle⟩
      missing := fun d given low name chain asked unregistered undefined =>
        (stays d).mpr
          ⟨given, fresh.missing_not_resolvable chain asked unregistered undefined⟩ }
  · exact {
      once := names.1.of_map
      apart := final.refs_nodup fresh
      complete := final.made_iff stuck
      named := fun d ref member => (final.names d.name ref).mpr (.inr ⟨d, member, rfl⟩)
      parents_first := fun before d ref after split above given asked =>
        final.ordered before d ref after split above ⟨given, asked⟩
      heard := by
        rw [last.seen, last.host, foldl_heard]
        have same : host.retried.channels = (site.host.read s).channels := channels
        have count : host.newsOfRetrying = newClasses late ++
            [.pendingProcessed (host.graph.settle host.parked).value.generated.length
              host.retried.parked.length] := by
          rw [newsOfRetrying, advance.generated, newClasses, List.map_map]
          rfl
        rw [same, count]
        simp [newClasses] }

/-- Defining new classes in any order, and then retrying the parked ones, registers the same
classes under the same parents and leaves the same definitions parked. -/
theorem definition_order_irrelevant (site : Site σ H) (log : σ → List (Announcement × H))
    (quiet : site.Quiet log) (s : σ) (attainable : (site.host.read s).graph.Attainable)
    (root : (site.host.read s).graph.classes.contains (site.host.read s).graph.objectClass = true)
    (unparked : (site.host.read s).parked = []) (ds others : List ClassDefinition)
    (names : (ds.map (·.name)).Nodup)
    (free : ∀ d ∈ ds, (site.host.read s).graph.findClass? d.name = none)
    (owned : ∀ d ∈ ds, ∀ owner ∈ d.blueprint,
      (site.host.read s).graph.blueprints.contains owner = true)
    (short : (site.host.read s).graph.classes.slots.length + ds.length < UInt32.size)
    (perm : ds.Perm others) :
    ∃ processed t again u, site.defineAll ds s = .ok processed t ∧
      site.defineAll others s = .ok again u ∧
      site.Outcome ds s t ∧ site.Outcome others s u ∧
      (∃ order, site.Announced log ds s t order processed) ∧
      (∃ order, site.Announced log others s u order again) ∧
      (∀ name, ((site.host.read t).graph.findClass? name).isSome =
        ((site.host.read u).graph.findClass? name).isSome) ∧
      (∀ d ∈ ds, (site.host.read t).graph.parentName? d.name =
        (site.host.read u).graph.parentName? d.name) ∧
      ∀ d, d ∈ (site.host.read t).parked ↔ d ∈ (site.host.read u).parked := by
  have indexed := attainable.indexed (Nat.lt_of_le_of_lt (Nat.le_add_right _ _) short)
  have fresh : (site.host.read s).graph.Fresh ds := ⟨indexed, root, names, free, owned, short⟩
  obtain ⟨processed, t, run, outcome, announced⟩ := define_all quiet fresh unparked
  obtain ⟨again, u, rerun, other, announcedToo⟩ := define_all quiet (fresh.perm perm) unparked
  have same (d : ClassDefinition) : (site.host.read s).graph.Resolvable ds d ↔
      (site.host.read s).graph.Resolvable others d := TypeGraph.resolvable_perm perm
  refine ⟨processed, t, again, u, run, rerun, outcome, other, announced, announcedToo, ?_, ?_, ?_⟩
  · intro name
    rw [Bool.eq_iff_iff, outcome.registered, other.registered]
    simp only [same, perm.mem_iff]
  · intro d given
    by_cases resolvable : (site.host.read s).graph.Resolvable ds d
    · rw [outcome.parents d given resolvable,
        other.parents d (perm.mem_iff.mp given) ((same d).mp resolvable)]
    · have kept : ¬ (site.host.read s).graph.Resolvable others d := mt (same d).mpr resolvable
      rw [TypeGraph.parent_name_of_free (outcome.unregistered fresh given resolvable),
        TypeGraph.parent_name_of_free
          (other.unregistered (fresh.perm perm) (perm.mem_iff.mp given) kept)]
  · intro d
    rw [outcome.parked, other.parked, perm.mem_iff, same]

def listeningSite : Site (AssemblyHost Unit × List (Announcement × Unit)) Unit where
  host := ⟨Prod.fst, fun host s => (host, s.2)⟩
  note _ s := s
  call news handler := fun s => .ok () (s.1, s.2 ++ [(news, handler)])

theorem listening_site_quiet : listeningSite.Quiet Prod.snd where
  lawful := ⟨fun _ _ => rfl, fun _ _ _ => rfl⟩
  written _ _ _ _ := ⟨trivial, rfl⟩
  noted _ _ _ := ⟨trivial, rfl, rfl⟩
  called _ _ _ _ _ := ⟨_, rfl, trivial, rfl, rfl⟩

def audience : AssemblyHost Unit × List (Announcement × Unit) :=
  ({ channels := Channels.initial.set .newClass ⟨"OnNewClass", [(1, ())]⟩ }, [])

/-- A player before its pawn, two classes under each other, and one under a class that nobody
defines. -/
def scattered : List ClassDefinition :=
  [{ name := ⟨"Game", "", "Player"⟩, superName := some ⟨"Game", "", "Pawn"⟩ },
    { name := ⟨"Game", "", "Hen"⟩, superName := some ⟨"Game", "", "Egg"⟩ },
    { name := ⟨"Game", "", "Pawn"⟩ },
    { name := ⟨"Game", "", "Egg"⟩, superName := some ⟨"Game", "", "Hen"⟩ },
    { name := ⟨"Game", "", "Stray"⟩, superName := some ⟨"Game", "", "Home"⟩ }]

/-- The scattered definitions, and the same ones back to front. -/
theorem scattered_order_irrelevant :
    ∃ processed t again u, listeningSite.defineAll scattered audience = .ok processed t ∧
      listeningSite.defineAll scattered.reverse audience = .ok again u ∧
      listeningSite.Outcome scattered audience t ∧
      listeningSite.Outcome scattered.reverse audience u ∧
      (∃ order, listeningSite.Announced Prod.snd scattered audience t order processed) ∧
      (∃ order, listeningSite.Announced Prod.snd scattered.reverse audience u order again) ∧
      (∀ name, (t.1.graph.findClass? name).isSome = (u.1.graph.findClass? name).isSome) ∧
      (∀ d ∈ scattered, t.1.graph.parentName? d.name = u.1.graph.parentName? d.name) ∧
      ∀ d, d ∈ t.1.parked ↔ d ∈ u.1.parked :=
  definition_order_irrelevant listeningSite Prod.snd listening_site_quiet audience .refl
    (by decide) rfl scattered scattered.reverse (by decide) (by decide) (by decide) (by decide)
    (List.reverse_perm scattered).symm

end Site

end BlueprintBridge.AssemblyHost
