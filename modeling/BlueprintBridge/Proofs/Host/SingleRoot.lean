import BlueprintBridge.Proofs.Graph.Upkeep
import BlueprintBridge.Proofs.Host.Failure
import BlueprintBridge.Session.Perform

/-!
# Hosts that are used through their own operations

Every operation of a host changes its graph by chores, and announces nothing before the graph is in
order. So where the handlers too use nothing but these operations, each graph that a handler or a
caller can come to see is one that chores lead to, also where a handler throws. There the hierarchy
has one root, a definition is refused for an objection only, and structs and enums are defined
without fail, each under one reference for good.
-/

namespace BlueprintBridge.AssemblyHost.Site

set_option autoImplicit false

open TypeGraph (graphAfter)

variable {σ H α β : Type} {site : Site σ H} {P : Chore → Prop}

def graph (site : Site σ H) (s : σ) : TypeGraph := (site.host.read s).graph

def Follows (site : Site σ H) (P : Chore → Prop) (chores : List Chore) (t : σ) : Prop :=
  ∃ more, (∀ chore ∈ more, P chore) ∧ site.graph t = graphAfter (chores ++ more)

/-- All that an action does to a graph that chores lead to is chores of a sort, whichever way it
ends. -/
def KeepsHouse (site : Site σ H) (P : Chore → Prop) (action : Action σ α) : Prop :=
  ∀ chores s, site.graph s = graphAfter chores → site.Follows P chores (stateAfter (action s))

/-- The handlers of a site, when they are called in order, do no more to the graph than the host
does by its own operations. -/
structure Kept (site : Site σ H) (P : Chore → Prop) : Prop where
  lawful : site.host.Lawful
  noted : ∀ record s, site.graph (site.note record s) = site.graph s
  called : ∀ news handler, site.KeepsHouse P (site.call news handler)

def edit (site : Site σ H) (edit : Session.GraphEdit) : Action σ Session.Reply :=
  site.host.step fun host =>
    let (reply, graph) := edit.apply host.graph
    (reply, { host with graph })

/-- The programs that use a host through its own operations only, for chores of a sort. What is done
aside does not touch the graph: questions, other parts of the state, exceptions. -/
inductive Managed (site : Site σ H) (P : Chore → Prop) : {α : Type} → Action σ α → Prop where
  | aside {α : Type} {action : Action σ α}
      (same : ∀ s, site.graph (stateAfter (action s)) = site.graph s) : Managed site P action
  | andThen {α β : Type} {first : Action σ α} {next : α → Action σ β}
      (before : Managed site P first) (after : ∀ value, Managed site P (next value)) :
      Managed site P (first >>= next)
  | defineClass (d : ClassDefinition) (fits : P (.defineClass d)) :
      Managed site P (site.defineClass d)
  | processPending (fit : ∀ d, P (.defineClass d)) : Managed site P site.processPending
  | defineStruct (s : ManagedStruct) (fits : P (.defineStruct s)) :
      Managed site P (site.defineStruct s)
  | defineEnum (e : ManagedEnum) (fits : P (.defineEnum e)) : Managed site P (site.defineEnum e)
  | ensurePackage (name : String) (fits : P (.ensurePackage name)) :
      Managed site P (site.edit (.ensurePackage name))
  | createBlueprint (package : PackageRef) (name : String)
      (fits : P (.createBlueprint package name)) :
      Managed site P (site.edit (.createBlueprint package name))
  | destroyBlueprint (ref : BlueprintRef) (fits : P (.destroyBlueprint ref)) :
      Managed site P (site.edit (.destroyBlueprint ref))
  | beginLoad (assembly : String) : Managed site P (site.beginLoad assembly)
  | finishLoad (assembly : String) : Managed site P (site.finishLoad assembly)
  | loadAssembly {α : Type} (assembly : String) {generate : Action σ (Except HostError α)}
      (inside : Managed site P generate) : Managed site P (site.loadAssembly assembly generate)

namespace Follows

variable {chores : List Chore} {s t : σ}

theorem here (reached : site.graph t = graphAfter chores) : site.Follows P chores t :=
  ⟨[], by simp, by rw [reached, List.append_nil]⟩

theorem of_graph (follows : site.Follows P chores s) (same : site.graph t = site.graph s) :
    site.Follows P chores t := by
  obtain ⟨more, fit, reached⟩ := follows
  exact ⟨more, fit, same.trans reached⟩

theorem trans (follows : site.Follows P chores s)
    (later : ∀ chores, site.graph s = graphAfter chores → site.Follows P chores t) :
    site.Follows P chores t := by
  obtain ⟨more, fit, reached⟩ := follows
  obtain ⟨last, fitToo, finish⟩ := later (chores ++ more) reached
  refine ⟨more ++ last, ?_, by rw [finish, List.append_assoc]⟩
  intro chore member
  exact (List.mem_append.mp member).elim (fit chore) (fitToo chore)

theorem of_snoc {chore : Chore} (follows : site.Follows P (chores ++ [chore]) t) (fits : P chore) :
    site.Follows P chores t := by
  obtain ⟨more, fit, reached⟩ := follows
  rw [List.append_assoc] at reached
  exact ⟨chore :: more, List.forall_mem_cons.mpr ⟨fits, fit⟩, reached⟩

end Follows

namespace KeepsHouse

theorem aside {action : Action σ α}
    (same : ∀ s, site.graph (stateAfter (action s)) = site.graph s) : site.KeepsHouse P action :=
  fun _ s reached => .here ((same s).trans reached)

theorem pure (value : α) : site.KeepsHouse P (Pure.pure value : Action σ α) := aside fun _ => rfl

theorem bind {first : Action σ α} {next : α → Action σ β} (before : site.KeepsHouse P first)
    (after : ∀ value, site.KeepsHouse P (next value)) : site.KeepsHouse P (first >>= next) := by
  intro chores s reached
  have middle := before chores s reached
  change site.Follows P chores (stateAfter (EStateM.bind first next s))
  unfold EStateM.bind
  cases run : first s with
  | ok value t =>
      rw [run] at middle
      exact middle.trans fun chores => after value chores t
  | error interruption t =>
      rw [run] at middle
      exact middle

theorem forM {χ : Type} {action : χ → Action σ Unit}
    (each : ∀ item, site.KeepsHouse P (action item)) (items : List χ) :
    site.KeepsHouse P (items.forM action) := by
  induction items with
  | nil => exact pure ()
  | cons item rest ih => exact bind (each item) fun _ => ih

theorem onInterrupt {cleanup : σ → σ} {body : Action σ α} (inside : site.KeepsHouse P body)
    (same : ∀ s, site.graph (cleanup s) = site.graph s) :
    site.KeepsHouse P (body.onInterrupt cleanup) := by
  intro chores s reached
  have finish := inside chores s reached
  unfold Action.onInterrupt
  cases run : body s with
  | ok value t =>
      rw [run] at finish
      exact finish
  | error interruption t =>
      rw [run] at finish
      exact finish.of_graph (same t)

end KeepsHouse

namespace Kept

variable (kept : site.Kept P)

include kept

theorem graph_put (graph : TypeGraph) (s : σ) :
    site.graph (site.host.write { site.host.read s with graph } s) = graph := by
  rw [Site.graph, kept.lawful.read_write]

theorem graph_step {f : AssemblyHost H → β × AssemblyHost H} (s : σ) :
    site.graph (stateAfter (site.host.step f s)) = (f (site.host.read s)).2.graph := by
  change (site.host.read (site.host.write (f (site.host.read s)).2 s)).graph = _
  rw [kept.lawful.read_write]

theorem updated {f : AssemblyHost H → AssemblyHost H} (same : ∀ host, (f host).graph = host.graph)
    (s : σ) : site.graph (site.host.update f s) = site.graph s := by
  unfold graph
  rw [Part.read_update kept.lawful, same]

theorem modify {f : AssemblyHost H → AssemblyHost H} (same : ∀ host, (f host).graph = host.graph) :
    site.KeepsHouse P (site.host.modify f) := .aside (kept.updated same)

theorem write (records : List Record) : site.KeepsHouse P (site.write records) := by
  apply KeepsHouse.aside
  intro s
  change site.graph (records.foldl (fun s record => site.note record s) s) = _
  induction records generalizing s with
  | nil => rfl
  | cons record rest ih => exact (ih _).trans (kept.noted record s)

theorem announce (news : Announcement) : site.KeepsHouse P (site.announce news) := by
  apply KeepsHouse.bind
  · exact .aside fun _ => rfl
  · intro host
    apply KeepsHouse.bind
    · exact .forM (fun handler : Nat × H => kept.called news handler.2) _
    · exact fun _ => .pure _

theorem tell (news : Announcement) (answer : α) :
    site.KeepsHouse P (do let _ ← site.announce news; return answer : Action σ α) := by
  apply KeepsHouse.bind
  · exact kept.announce news
  · exact fun _ => .pure answer

theorem edit (chore : Chore) {edit : Session.GraphEdit} (request : chore.request = .edit edit)
    (fits : P chore) : site.KeepsHouse P (site.edit edit) := by
  intro chores s reached
  refine Follows.of_snoc (.here ?_) fits
  rw [TypeGraph.graph_after_snoc, TypeGraph.doChore, request, ← reached]
  exact kept.graph_step s

theorem begin_load (assembly : String) : site.KeepsHouse P (site.beginLoad assembly) := by
  apply KeepsHouse.bind
  · exact kept.write _
  · exact fun _ => kept.modify fun _ => rfl

theorem finish_load (assembly : String) : site.KeepsHouse P (site.finishLoad assembly) := by
  apply KeepsHouse.bind
  · exact .aside kept.graph_step
  · intro finished
    cases finished with
    | false => exact .pure _
    | true =>
        apply KeepsHouse.bind
        · exact kept.write _
        · exact fun _ => kept.tell _ _

theorem load_assembly (assembly : String) {generate : Action σ (Except HostError α)}
    (inside : site.KeepsHouse P generate) :
    site.KeepsHouse P (site.loadAssembly assembly generate) := by
  apply KeepsHouse.bind
  · exact kept.begin_load assembly
  intro _
  apply KeepsHouse.bind
  · apply inside.onInterrupt
    intro s
    have ended := kept.updated
      (f := fun host => { host with loads := (host.loads.finish assembly).2 }) fun _ => rfl
    exact (ended _).trans (kept.noted _ s)
  intro result
  apply KeepsHouse.bind
  · exact kept.finish_load assembly
  · rintro (_ | _)
    · exact .pure _
    · exact .pure _

theorem define_class (d : ClassDefinition) {chores : List Chore} {s : σ}
    (reached : site.graph s = graphAfter chores) :
    site.Follows P (chores ++ [.defineClass d]) (stateAfter (site.defineClass d s)) := by
  obtain ⟨answer, next, run⟩ :
      ∃ answer next, (site.host.read s).graph.generate d = (answer, next) := ⟨_, _, rfl⟩
  have step : site.host.step (fun host =>
      ((host.graph.generate d).1, { host with graph := (host.graph.generate d).2 })) s =
      .ok answer (site.host.write { site.host.read s with graph := next } s) := by
    simp only [Part.step, run]
  have placed : next = graphAfter (chores ++ [.defineClass d]) := by
    rw [TypeGraph.graph_after_snoc, ← reached]
    exact (congrArg Prod.snd run).symm
  have keeps {rest : Action σ (Except HostError (Option ClassRef))}
      (keeps : site.KeepsHouse P rest) :=
    keeps _ _ ((kept.graph_put next s).trans placed)
  unfold defineClass
  rw [Action.bind_of_ok step]
  apply keeps
  rcases answer with e | _ | ref
  · exact .pure _
  · apply KeepsHouse.bind
    · exact kept.write _
    · intro _
      apply KeepsHouse.bind
      · exact kept.modify fun _ => rfl
      · exact fun _ => .pure _
  · apply KeepsHouse.bind
    · exact kept.write _
    · exact fun _ => kept.tell _ _

/-- Retrying parked definitions is defining the classes that are tried, one after the other. -/
theorem process_pending (fit : ∀ d, P (.defineClass d)) :
    site.KeepsHouse P site.processPending := by
  apply KeepsHouse.bind
  · intro chores s reached
    refine ⟨((site.graph s).allTrials (site.host.read s).parked).map fun trial =>
      .defineClass trial.definition, ?_, ?_⟩
    · intro chore member
      obtain ⟨trial, _, rfl⟩ := List.mem_map.mp member
      exact fit _
    · rw [kept.graph_step, TypeGraph.graph_after_append, ← reached]
      change ((site.graph s).settle _).value.graph = _
      rw [TypeGraph.settle_eq_perform_all, TypeGraph.performAll, List.foldl_map, List.foldl_map]
      rfl
  intro pass
  apply KeepsHouse.bind
  · exact kept.write _
  intro _
  apply KeepsHouse.bind
  · exact .forM (fun ref => kept.tell (.newClass ref) _) _
  intro _
  apply KeepsHouse.bind
  · exact .aside fun _ => rfl
  intro host
  -- The warning about what is still parked makes no difference to what follows.
  dsimp only
  split
  · apply KeepsHouse.bind
    · exact kept.write _
    · exact fun _ => kept.tell _ _
  · exact kept.tell _ _

end Kept

def Publishes {kind : ObjectKind} (site : Site σ H)
    (define : Action σ (Except HostError (Ref kind))) (news : Announcement) (ref : Ref kind)
    (s : σ) (graph : TypeGraph) : Prop :=
  define s = (do
      let _ ← site.announce news
      return .ok ref : Action σ (Except HostError (Ref kind)))
    (site.host.write { site.host.read s with graph } s)

/-- No definition of this sort fails, and the reference it gives is the one that its name leads to,
and that other definitions of the name give, ever after. -/
def AlwaysDefines {kind : ObjectKind} {δ : Type} (site : Site σ H) (P : Chore → Prop)
    (define : δ → Action σ (Except HostError (Ref kind))) (chore : δ → Chore)
    (news : Ref kind → Announcement) (nameOf : δ → TypeName)
    (find? : TypeGraph → TypeName → Option (Ref kind)) (chores : List Chore) (s : σ) : Prop :=
  ∀ d, ∃ ref, site.Publishes (define d) (news ref) ref s (graphAfter (chores ++ [chore d])) ∧
    site.Follows P (chores ++ [chore d]) (stateAfter (define d s)) ∧
    ∀ more t, site.graph t = graphAfter (chores ++ chore d :: more) →
      find? (site.graph t) (nameOf d) = some ref ∧
      ∀ again, nameOf again = nameOf d →
        site.Publishes (define again) (news ref) ref t
          (graphAfter (chores ++ chore d :: more ++ [chore again]))

theorem Publishes.follows {kind : ObjectKind} {define : Action σ (Except HostError (Ref kind))}
    {news : Announcement} {ref : Ref kind} {s : σ} {chores : List Chore}
    (publishes : site.Publishes define news ref s (graphAfter chores)) (kept : site.Kept P) :
    site.Follows P chores (stateAfter (define s)) := by
  rw [publishes]
  exact kept.tell news (Except.ok ref) chores _ (kept.graph_put _ s)

theorem Kept.always_defines {kind : ObjectKind} {δ : Type} (kept : site.Kept P)
    {define : δ → Action σ (Except HostError (Ref kind))} {chore : δ → Chore}
    {news : Ref kind → Announcement} {nameOf : δ → TypeName}
    {find? : TypeGraph → TypeName → Option (Ref kind)}
    (published : ∀ chores s d, site.graph s = graphAfter chores → ∃ ref,
      site.Publishes (define d) (news ref) ref s (graphAfter (chores ++ [chore d])) ∧
        find? (graphAfter (chores ++ [chore d])) (nameOf d) = some ref)
    (stays : ∀ chores name ref, find? (graphAfter chores) name = some ref → ∀ more,
      find? (graphAfter (chores ++ more)) name = some ref)
    {chores : List Chore} {s : σ} (reached : site.graph s = graphAfter chores) :
    site.AlwaysDefines P define chore news nameOf find? chores s := by
  intro d
  obtain ⟨ref, publishes, found⟩ := published chores s d reached
  refine ⟨ref, publishes, publishes.follows kept, fun more t later => ?_⟩
  have lasting : find? (graphAfter (chores ++ chore d :: more)) (nameOf d) = some ref := by
    have still := stays _ _ _ found more
    rwa [List.append_assoc] at still
  refine ⟨by rw [later, lasting], fun again same => ?_⟩
  obtain ⟨other, publishesAgain, foundAgain⟩ := published _ t again later
  have still := stays _ _ _ lasting [chore again]
  rw [same, still] at foundAgain
  cases foundAgain
  exact publishesAgain

theorem struct_published (site : Site σ H) (chores : List Chore) (s : σ) (d : ManagedStruct)
    (reached : site.graph s = graphAfter chores) :
    ∃ ref, site.Publishes (site.defineStruct d) (.newStruct ref) ref s
        (graphAfter (chores ++ [.defineStruct d])) ∧
      (graphAfter (chores ++ [.defineStruct d])).findStruct? d.name = some ref := by
  obtain ⟨ref, structs, structNames, run, _, found⟩ :=
    (TypeGraph.one_root_after chores).define_struct d
  have after : graphAfter (chores ++ [.defineStruct d]) =
      { graphAfter chores with structs, structNames } := by
    rw [TypeGraph.graph_after_snoc]
    exact congrArg (graphAfter chores).attempted run
  rw [after]
  refine ⟨ref, ?_, found⟩
  have looked : site.host.get s = .ok (site.host.read s) s := rfl
  unfold Publishes defineStruct
  rw [Action.bind_of_ok looked, show (site.host.read s).graph = graphAfter chores from reached, run]
  rfl

theorem enum_published (site : Site σ H) (chores : List Chore) (s : σ) (d : ManagedEnum)
    (reached : site.graph s = graphAfter chores) :
    ∃ ref, site.Publishes (site.defineEnum d) (.newEnum ref) ref s
        (graphAfter (chores ++ [.defineEnum d])) ∧
      (graphAfter (chores ++ [.defineEnum d])).findEnum? d.name = some ref := by
  obtain ⟨ref, enums, enumNames, run, _, found⟩ := (graphAfter chores).define_enum_restocked d
  have after : graphAfter (chores ++ [.defineEnum d]) =
      { graphAfter chores with enums, enumNames } := by
    rw [TypeGraph.graph_after_snoc]
    exact congrArg (graphAfter chores).attempted run
  rw [after]
  refine ⟨ref, ?_, found⟩
  have looked : site.host.get s = .ok (site.host.read s) s := rfl
  unfold Publishes defineEnum
  rw [Action.bind_of_ok looked, show (site.host.read s).graph = graphAfter chores from reached, run]
  rfl

theorem Kept.managed (kept : site.Kept P) {action : Action σ α} (managed : site.Managed P action) :
    site.KeepsHouse P action := by
  induction managed with
  | aside same => exact .aside same
  | andThen _ _ before after => exact before.bind after
  | defineClass d fits =>
      intro chores s reached
      exact (kept.define_class d reached).of_snoc fits
  | processPending fit => exact kept.process_pending fit
  | defineStruct s fits =>
      intro chores start reached
      obtain ⟨ref, publishes, _⟩ := site.struct_published chores start s reached
      exact (publishes.follows kept).of_snoc fits
  | defineEnum e fits =>
      intro chores start reached
      obtain ⟨ref, publishes, _⟩ := site.enum_published chores start e reached
      exact (publishes.follows kept).of_snoc fits
  | ensurePackage name fits => exact kept.edit (.ensurePackage name) rfl fits
  | createBlueprint package name fits => exact kept.edit (.createBlueprint package name) rfl fits
  | destroyBlueprint ref fits => exact kept.edit (.destroyBlueprint ref) rfl fits
  | beginLoad assembly => exact kept.begin_load assembly
  | finishLoad assembly => exact kept.finish_load assembly
  | loadAssembly assembly _ inside => exact kept.load_assembly assembly inside

/-- Handlers that are such programs themselves nest: those of one site are programs of another one,
in which handlers go less deep. -/
theorem Kept.nest {inner : Site σ H} (kept : inner.Kept P) (host : site.host = inner.host)
    (note : site.note = inner.note)
    (managed : ∀ news handler, inner.Managed P (site.call news handler)) : site.Kept P where
  lawful := host ▸ kept.lawful
  noted record s := by
    rw [graph, graph, host, note]
    exact kept.noted record s
  called news handler := by
    intro chores s reached
    rw [graph, host] at reached
    have follows := kept.managed (managed news handler) chores s reached
    rw [Follows, graph] at follows ⊢
    rwa [host]

/-- What holds of a host where chores led to its graph. -/
structure SingleRooted (site : Site σ H) (P : Chore → Prop) (chores : List Chore) (s : σ) :
    Prop where
  /-- Programs that use the host through its own operations come to no other graphs, and what they
  did is of the sort of chores they are for. -/
  managed : ∀ {α : Type} {action : Action σ α}, site.Managed P action →
    site.Follows P chores (stateAfter (action s))
  object : (site.graph s).objectClass = TypeGraph.initial.objectClass
  top : (site.graph s).parent? (site.graph s).objectClass = none
  derives : ∀ ref, (site.graph s).classes.contains ref = true →
    (site.graph s).derivesFrom ref (site.graph s).objectClass = true
  /-- No class goes stale. -/
  stays : ∀ ref, (site.graph s).classes.contains ref = true → ∀ more t,
    site.graph t = graphAfter (chores ++ more) → (site.graph t).classes.contains ref = true
  made : ∀ d ref t, site.defineClass d s = .ok (.ok (some ref)) t →
    (site.graph t).classes.contains ref = true
  refused : ∀ d e t, site.defineClass d s = .ok (.error e) t →
    ∃ reason, e = .graph reason ∧ (site.graph s).Objection d reason
  dropped : ∀ trial ∈ (site.graph s).allTrials (site.host.read s).parked, ∀ e,
    trial.answer = .error e → trial.before.Objection trial.definition e
  structs : site.AlwaysDefines P site.defineStruct .defineStruct .newStruct ManagedStruct.name
    TypeGraph.findStruct? chores s
  enums : site.AlwaysDefines P site.defineEnum .defineEnum .newEnum ManagedEnum.name
    TypeGraph.findEnum? chores s
  /-- As long as the structs can be numbered, what is on file is what was defined last. -/
  latestStruct : (site.graph s).structs.slots.length < UInt32.size → ∀ name ref,
    (site.graph s).findStruct? name = some ref → (site.graph s).struct? ref =
      SlotTable.lastNamed? ManagedStruct.name (chores.filterMap Chore.struct?) name
  latestEnum : (site.graph s).enums.slots.length < UInt32.size → ∀ name ref,
    (site.graph s).findEnum? name = some ref → (site.graph s).enum? ref =
      SlotTable.lastNamed? ManagedEnum.name (chores.filterMap Chore.enum?) name

theorem define_class_answer {d : ClassDefinition} {s t : σ}
    {answer : Except HostError (Option ClassRef)} (defined : site.defineClass d s = .ok answer t) :
    answer = ((site.graph s).generate d).1.mapError .graph := by
  obtain ⟨generated, next, run⟩ :
      ∃ generated next, (site.host.read s).graph.generate d = (generated, next) := ⟨_, _, rfl⟩
  rw [graph, run]
  simp only [defineClass] at defined
  obtain ⟨_, _, step, defined⟩ := Action.bind_eq_ok.mp defined
  simp only [Part.step, run] at step
  cases step
  rcases generated with e | _ | ref
  · cases defined
    rfl
  · obtain ⟨_, _, _, defined⟩ := Action.bind_eq_ok.mp defined
    obtain ⟨_, _, _, defined⟩ := Action.bind_eq_ok.mp defined
    cases defined
    rfl
  · obtain ⟨_, _, _, defined⟩ := Action.bind_eq_ok.mp defined
    obtain ⟨_, _, _, defined⟩ := Action.bind_eq_ok.mp defined
    cases defined
    rfl

theorem Kept.made_live (kept : site.Kept P) {chores : List Chore} {s t : σ}
    (reached : site.graph s = graphAfter chores) {d : ClassDefinition} {ref : ClassRef}
    (defined : site.defineClass d s = .ok (.ok (some ref)) t) :
    (site.graph t).classes.contains ref = true := by
  obtain ⟨answer, next, run⟩ : ∃ answer next, (graphAfter chores).generate d = (answer, next) :=
    ⟨_, _, rfl⟩
  have given := define_class_answer defined
  rw [reached, run] at given
  obtain ⟨_, live, _⟩ := (TypeGraph.one_root_after chores).generate run
  have here : (graphAfter (chores ++ [.defineClass d])).classes.contains ref = true := by
    have placed : graphAfter (chores ++ [.defineClass d]) = next := by
      rw [TypeGraph.graph_after_snoc]
      exact congrArg Prod.snd run
    rw [placed]
    apply live
    rcases answer with e | made
    · cases given
    · cases given
      rfl
  have follows := kept.define_class d reached
  rw [defined] at follows
  obtain ⟨more, _, finish⟩ := follows
  rw [show site.graph t = _ from finish]
  exact TypeGraph.class_stays here more

/-- However a host is used through its own operations, also by its handlers, its hierarchy has a
single root and its definitions cannot fail for reasons of its own. -/
theorem hierarchy_keeps_single_root (kept : site.Kept P) (chores : List Chore) (s : σ)
    (reached : site.graph s = graphAfter chores) : site.SingleRooted P chores s := by
  have one : (site.graph s).OneRoot := reached ▸ TypeGraph.one_root_after chores
  exact {
    managed := fun managed => kept.managed managed chores s reached
    object := one.object
    top := one.top
    derives := fun ref => one.derives
    stays := by
      intro ref live more t later
      rw [later]
      rw [reached] at live
      exact TypeGraph.class_stays live more
    made := fun d ref t => kept.made_live reached
    refused := by
      intro d e t failed
      obtain ⟨answer, next, run⟩ : ∃ answer next, (site.graph s).generate d = (answer, next) :=
        ⟨_, _, rfl⟩
      have given := define_class_answer failed
      rw [run] at given
      obtain ⟨_, _, objection⟩ := one.generate run
      rcases answer with reason | made
      · cases given
        exact ⟨reason, rfl, objection reason rfl⟩
      · cases given
    dropped := by
      intro trial member e failed
      have account := (site.graph s).settle_account (site.host.read s).parked
      have run := account.successive.generate member
      rw [failed] at run
      exact ((one.successive account.successive member).generate run).2.2 e rfl
    structs := kept.always_defines site.struct_published
      (fun _ _ _ found => TypeGraph.struct_stays found) reached
    enums := kept.always_defines site.enum_published
      (fun _ _ _ found => TypeGraph.enum_stays found) reached
    latestStruct := by
      intro short name ref found
      rw [reached] at short found ⊢
      exact TypeGraph.struct_recorded short found
    latestEnum := by
      intro short name ref found
      rw [reached] at short found ⊢
      exact TypeGraph.enum_recorded short found }

/-- A host whose handlers define a class of their own, in a package of their own, whatever they hear
of. -/
def busySite : Site (AssemblyHost Unit) Unit :=
  { bareSite with
    call := fun _ _ => do
      let _ ← bareSite.edit (.ensurePackage "/Script/Late")
      let _ ← bareSite.defineClass { name := ⟨"Late", "", "Echo"⟩ } }

theorem bare_site_kept (P : Chore → Prop) : bareSite.Kept P :=
  ⟨bare_site_lawful, fun _ _ => rfl, fun _ _ => .pure ()⟩

def ClassesOnly (chore : Chore) : Prop := chore.struct? = none ∧ chore.enum? = none

theorem busy_site_kept : busySite.Kept ClassesOnly := by
  apply Kept.nest (bare_site_kept ClassesOnly)
  · rfl
  · rfl
  · intro news handler
    apply Managed.andThen
    · exact .ensurePackage _ ⟨rfl, rfl⟩
    · intro _
      apply Managed.andThen
      · exact .defineClass _ ⟨rfl, rfl⟩
      · exact fun _ => .aside fun _ => rfl

def listening : AssemblyHost Unit :=
  { channels := { Channels.initial with newClass := ⟨"OnNewClass", [(0, ())]⟩ } }

def buildDoor : Action (AssemblyHost Unit) (Except HostError (Option ClassRef)) := do
  let _ ← busySite.edit (.ensurePackage "/Script/Game")
  let _ ← busySite.edit (.createBlueprint ⟨0, 0⟩ "BP_Door")
  busySite.defineClass door

theorem build_door_managed : busySite.Managed ClassesOnly buildDoor := by
  apply Managed.andThen
  · exact .ensurePackage _ ⟨rfl, rfl⟩
  · intro _
    apply Managed.andThen
    · exact .createBlueprint _ _ ⟨rfl, rfl⟩
    · exact fun _ => .defineClass door ⟨rfl, rfl⟩

/-- The handler that hears of the door defines its echo, and the root cannot be put under that. -/
theorem echoing_host_single_rooted :
    busySite.Kept ClassesOnly ∧ busySite.graph listening = graphAfter [] ∧
      busySite.SingleRooted ClassesOnly [] listening ∧
      ∃ chores, busySite.SingleRooted ClassesOnly chores (stateAfter (buildDoor listening)) ∧
        (busySite.graph (stateAfter (buildDoor listening))).findClass? ⟨"Late", "", "Echo"⟩ =
          some ⟨3, 0⟩ ∧
        ∃ finish, busySite.defineClass
          { name := TypeGraph.objectName, superName := some ⟨"Late", "", "Echo"⟩ }
          (stateAfter (buildDoor listening)) =
          .ok (.error (.graph (.cyclicInheritance TypeGraph.objectName))) finish := by
  have fresh : busySite.graph listening = graphAfter [] := rfl
  have single := hierarchy_keeps_single_root busy_site_kept [] listening fresh
  obtain ⟨chores, _, reached⟩ := single.managed build_door_managed
  exact ⟨busy_site_kept, fresh, single, chores,
    hierarchy_keeps_single_root busy_site_kept chores _ reached, by decide +kernel,
    _, eq_ok_of_value (by decide +kernel)⟩

end BlueprintBridge.AssemblyHost.Site
