import BlueprintBridge.Proofs.Host.Settling
import BlueprintBridge.Proofs.Host.SingleRoot

/-!
# Bystanders

A subscriber that defines no classes and closes no cycle by an unchecked edit may use a host in
every other way, also throw, and yet leave everything parked that waits for a name: nobody registers
one. A clerk who hears of each class first then hears of no others than those that are announced to
it.
-/

namespace BlueprintBridge

set_option autoImplicit false

def Announcement.newClass? : Announcement → Option ClassRef
  | newClass ref => some ref
  | _ => none

namespace AssemblyHost

variable {σ H α β : Type}

structure Stalled (host : AssemblyHost H) : Prop where
  waiting : ∀ d ∈ host.parked, d.WaitsIn host.graph
  rooted : host.graph.Rooted

def ClerkFirst (clerk : H → Prop) (host : AssemblyHost H) : Prop :=
  ∃ first others, host.channels.newClass.handlers = first :: others ∧ clerk first.2 ∧
    ∀ handler ∈ others, ¬ clerk handler.2

namespace Site

/-- From one state to the other nothing is parked or taken up, no name of a class is new and no
cycle closes. If the clerk heard first of classes, it still does, and has written down these. -/
structure Tells (site : Site σ H) (clerk : H → Prop) (diary : σ → List ClassRef)
    (refs : List ClassRef) (s t : σ) : Prop where
  parked : (site.host.read t).parked = (site.host.read s).parked
  names : ∀ name, (site.graph s).findClass? name = none → (site.graph t).findClass? name = none
  rooted : (site.graph s).Rooted → (site.graph t).Rooted
  heard : (site.host.read s).ClerkFirst clerk →
    (site.host.read t).ClerkFirst clerk ∧ diary t = diary s ++ refs

/-- An action that defines no classes as long as all that is parked waits, whichever way it ends. -/
def Bystands (site : Site σ H) (clerk : H → Prop) (diary : σ → List ClassRef)
    (action : Action σ α) : Prop :=
  ∀ s, (site.host.read s).Stalled → site.Tells clerk diary [] s (stateAfter (action s))

/-- The subscribers of a site are clerks, who write down the classes they hear of and do nothing
else, and bystanders. There need not be any clerk. -/
structure Attended (site : Site σ H) (clerk : H → Prop) (diary : σ → List ClassRef) : Prop where
  lawful : site.host.Lawful
  written : ∀ host s, diary (site.host.write host s) = diary s
  noted : ∀ record s, site.host.read (site.note record s) = site.host.read s ∧
    diary (site.note record s) = diary s
  clerks : ∀ news handler s, clerk handler → ∃ t, site.call news handler s = .ok () t ∧
    site.host.read t = site.host.read s ∧ diary t = diary s ++ news.newClass?.toList
  others : ∀ news handler, ¬ clerk handler → site.Bystands clerk diary (site.call news handler)

variable {site : Site σ H} {clerk : H → Prop} {diary : σ → List ClassRef} {s t u : σ}
  {refs more : List ClassRef}

namespace Tells

theorem same (host : site.host.read t = site.host.read s) (told : diary t = diary s ++ refs) :
    site.Tells clerk diary refs s t where
  parked := by rw [host]
  names name := by
    unfold graph
    rw [host]
    exact id
  rooted := by
    unfold graph
    rw [host]
    exact id
  heard first := ⟨host ▸ first, told⟩

theorem refl (s : σ) : site.Tells clerk diary [] s s := .same rfl (by simp)

theorem trans (early : site.Tells clerk diary refs s t) (late : site.Tells clerk diary more t u) :
    site.Tells clerk diary (refs ++ more) s u where
  parked := late.parked.trans early.parked
  names name free := late.names name (early.names name free)
  rooted rooted := late.rooted (early.rooted rooted)
  heard first := by
    have ⟨still, early⟩ := early.heard first
    have ⟨last, late⟩ := late.heard still
    exact ⟨last, by rw [late, early, List.append_assoc]⟩

theorem stalled (tells : site.Tells clerk diary refs s t)
    (stalled : (site.host.read s).Stalled) : (site.host.read t).Stalled where
  waiting d member := by
    rw [tells.parked] at member
    have ⟨name, asks, free⟩ := stalled.waiting d member
    exact ⟨name, asks, tells.names name free⟩
  rooted := tells.rooted stalled.rooted

theorem then_bystand {action : Action σ α} (tells : site.Tells clerk diary refs s t)
    (stalled : (site.host.read s).Stalled) (bystands : site.Bystands clerk diary action) :
    site.Tells clerk diary refs s (stateAfter (action t)) := by
  have later := tells.trans (bystands t (tells.stalled stalled))
  rwa [List.append_nil] at later

end Tells

namespace Bystands

theorem pure (value : α) : site.Bystands clerk diary (Pure.pure value : Action σ α) :=
  fun s _ => .refl s

theorem bind {first : Action σ α} {next : α → Action σ β}
    (before : site.Bystands clerk diary first)
    (after : ∀ value, site.Bystands clerk diary (next value)) :
    site.Bystands clerk diary (first >>= next) := by
  intro s stalled
  have middle := before s stalled
  cases run : first s with
  | ok value t =>
      rw [run] at middle
      rw [Action.bind_of_ok run]
      exact middle.then_bystand stalled (after value)
  | error interruption t =>
      rw [run] at middle
      rw [Action.bind_eq_error.mpr (.inl run)]
      exact middle

theorem forM {χ : Type} {action : χ → Action σ Unit} {items : List χ}
    (each : ∀ item ∈ items, site.Bystands clerk diary (action item)) :
    site.Bystands clerk diary (items.forM action) := by
  induction items with
  | nil => exact pure ()
  | cons item rest ih =>
      apply bind
      · exact each item (List.mem_cons_self ..)
      · exact fun _ => ih fun other member => each other (List.mem_cons_of_mem _ member)

theorem caught {body : Action σ α} (inside : site.Bystands clerk diary body) :
    site.Bystands clerk diary body.caught := by
  intro s stalled
  have left := inside s stalled
  unfold Action.caught
  cases run : body s with
  | ok value t =>
      rw [run] at left
      exact left
  | error interruption t =>
      rw [run] at left
      cases interruption with
      | unwound | outOfFuel => exact left

theorem onInterrupt {cleanup : σ → σ} {body : Action σ α}
    (inside : site.Bystands clerk diary body)
    (cleaned : ∀ s, site.Tells clerk diary [] s (cleanup s)) :
    site.Bystands clerk diary (body.onInterrupt cleanup) := by
  intro s stalled
  have left := inside s stalled
  unfold Action.onInterrupt
  cases run : body s with
  | ok value t =>
      rw [run] at left
      exact left
  | error interruption t =>
      rw [run] at left
      exact left.trans (cleaned t)

end Bystands

theorem edit_no_names {edit : Session.GraphEdit} (classless : ∀ c, edit ≠ .addClass c)
    (g : TypeGraph) {name : TypeName} (free : g.findClass? name = none) :
    (edit.apply g).2.findClass? name = none := by
  have edited {α : Type} {reply : α → Session.Reply} {result : Except GraphError (α × TypeGraph)}
      (names : ∀ answer next, result = .ok (answer, next) → next.classNames = g.classNames) :
      (Session.editOr g reply result).2.findClass? name = none := by
    cases result with
    | error e => exact free
    | ok made =>
        have same := names made.1 made.2 rfl
        exact (congrArg (Catalog.get? · name) same).trans free
  cases edit with
  | addClass c => exact absurd rfl (classless c)
  | ensurePackage package =>
      simp only [Session.GraphEdit.apply, TypeGraph.ensurePackage]
      split <;> exact free
  | createBlueprint package name =>
      simp only [Session.GraphEdit.apply, TypeGraph.createBlueprint]
      cases g.package? package <;> exact free
  | removeClass ref =>
      simp only [Session.GraphEdit.apply, TypeGraph.removeClass]
      split
      · refine (Catalog.get?_erase g.classNames _ name).trans ?_
        split
        · rfl
        · exact free
      · exact free
  | setSuper ref parent =>
      apply edited
      intro _ next moved
      obtain ⟨graph, moved, same⟩ := map_eq_ok moved
      cases same
      rw [(TypeGraph.set_super_ok moved).2.2.2]
  | bind owner ref =>
      apply edited
      intro _ next moved
      obtain ⟨graph, bound, same⟩ := map_eq_ok moved
      cases same
      rw [(TypeGraph.bind_ok bound).2.2]
  | addStruct s =>
      apply edited
      intro _ next added
      rw [(TypeGraph.add_struct_ok added).2.2]
  | addEnum e =>
      apply edited
      intro _ next added
      rw [(TypeGraph.add_enum_ok added).2.2]
  | setStructReferences ref references =>
      apply edited
      intro _ next changed
      obtain ⟨graph, changed, same⟩ := map_eq_ok changed
      cases same
      rw [(TypeGraph.set_struct_references_ok changed).2]
  | destroyBlueprint | editClass | addPackage | addBlueprint | removeBlueprint
  | setEnumReferences => exact free

def IsChecked : Session.GraphEdit → Prop
  | .editClass _ _ _ => False
  | .removeClass ref => ref.generation.toNat + 1 < UInt32.size
  | _ => True

theorem edit_rooted {edit : Session.GraphEdit} (checked : IsChecked edit) {g : TypeGraph}
    (rooted : g.Rooted) : (edit.apply g).2.Rooted := by
  have edited {α : Type} {reply : α → Session.Reply} {result : Except GraphError (α × TypeGraph)}
      (made : ∀ answer next, result = .ok (answer, next) → TypeGraph.Change g next) :
      (Session.editOr g reply result).2.Rooted := by
    cases result with
    | error e => exact rooted
    | ok pair => exact (made pair.1 pair.2 rfl).rooted rooted
  cases edit with
  | editClass => exact checked.elim
  | removeClass ref => exact (TypeGraph.Change.removeClass g ref fun _ => checked).rooted rooted
  | ensurePackage package =>
      simp only [Session.GraphEdit.apply, TypeGraph.ensurePackage]
      split
      · exact rooted
      · exact rooted.of_classes rfl
  | createBlueprint package name =>
      simp only [Session.GraphEdit.apply, TypeGraph.createBlueprint]
      cases g.package? package with
      | none => exact rooted
      | some _ => exact rooted.of_classes rfl
  | addClass c => exact edited fun _ _ added => .addClass added
  | setSuper ref parent =>
      apply edited
      intro _ _ changed
      obtain ⟨_, moved, same⟩ := map_eq_ok changed
      cases same
      exact .setSuper moved
  | bind owner ref =>
      apply edited
      intro _ _ changed
      obtain ⟨_, bound, same⟩ := map_eq_ok changed
      cases same
      exact .bind bound
  | addStruct s => exact edited fun _ _ added => .addStruct added
  | addEnum e => exact edited fun _ _ added => .addEnum added
  | setStructReferences ref references =>
      apply edited
      intro _ _ changed
      obtain ⟨_, replaced, same⟩ := map_eq_ok changed
      cases same
      exact .setStructReferences replaced
  | destroyBlueprint | addPackage | addBlueprint | removeBlueprint | setEnumReferences =>
      exact rooted.of_classes rfl

namespace Attended

variable (attended : site.Attended clerk diary)

include attended

theorem without_clerks : site.Attended (fun _ => False) diary where
  lawful := attended.lawful
  written := attended.written
  noted := attended.noted
  clerks _ _ _ nobody := nobody.elim
  others news handler _ := by
    intro s stalled
    have vacuous {u : σ} : ¬ (site.host.read u).ClerkFirst fun _ => False :=
      fun ⟨_, _, _, nobody, _⟩ => nobody
    by_cases writes : clerk handler
    · obtain ⟨t, run, host, _⟩ := attended.clerks news handler s writes
      rw [run]
      exact ⟨by rw [stateAfter, host], by simp [graph, stateAfter, host],
        by simp [graph, stateAfter, host], fun first => absurd first vacuous⟩
    · have tells := attended.others news handler writes s stalled
      exact ⟨tells.parked, tells.names, tells.rooted, fun first => absurd first vacuous⟩

theorem noting (record : Record) (s : σ) : site.Tells clerk diary [] s (site.note record s) := by
  have ⟨host, unread⟩ := attended.noted record s
  exact .same host (by rw [unread, List.append_nil])

theorem write (records : List Record) : site.Bystands clerk diary (site.write records) := by
  intro s _
  change site.Tells clerk diary [] s (records.foldl (fun s record => site.note record s) s)
  clear * - attended
  induction records generalizing s with
  | nil => exact .refl s
  | cons record rest ih => exact (attended.noting record s).trans (ih _)

theorem replacing {next : AssemblyHost H} (parked : next.parked = (site.host.read s).parked)
    (names : ∀ name, (site.graph s).findClass? name = none → next.graph.findClass? name = none)
    (rooted : (site.graph s).Rooted → next.graph.Rooted)
    (channels : next.channels = (site.host.read s).channels) :
    site.Tells clerk diary [] s (site.host.write next s) := by
  have read := attended.lawful.read_write next s
  constructor
  · rw [read, parked]
  · unfold graph at names ⊢
    rwa [read]
  · unfold graph at rooted ⊢
    rwa [read]
  · intro first
    unfold ClerkFirst at first ⊢
    rw [read, channels, attended.written, List.append_nil]
    exact ⟨first, rfl⟩

omit attended in
theorem announce_of_calls {news : Announcement}
    (calls : ∀ handler, site.Bystands clerk diary (site.call news handler)) :
    site.Bystands clerk diary (site.announce news) := by
  apply Bystands.bind
  · exact fun s _ => .refl s
  · intro host
    apply Bystands.bind
    · exact .forM fun handler _ => calls handler.2
    · exact fun _ => .pure _

theorem announce {news : Announcement} (aside : news.newClass? = none) :
    site.Bystands clerk diary (site.announce news) := by
  apply announce_of_calls
  intro handler s stalled
  by_cases writes : clerk handler
  · obtain ⟨t, run, host, written⟩ := attended.clerks news handler s writes
    rw [aside] at written
    rw [run]
    exact .same host written
  · exact attended.others news handler writes s stalled

/-- The clerk has heard of a class whichever way its announcement ends. -/
theorem announce_class (ref : ClassRef) (stalled : (site.host.read s).Stalled) :
    site.Tells clerk diary [ref] s (stateAfter (site.announce (.newClass ref) s)) := by
  by_cases first : (site.host.read s).ClerkFirst clerk
  · obtain ⟨listener, others, handlers, writes, bystanders⟩ := first
    obtain ⟨t, run, host, written⟩ := attended.clerks (.newClass ref) listener.2 s writes
    have heard : site.announce (.newClass ref) s = (do
        others.forM fun handler => site.call (.newClass ref) handler.2
        return others.length + 1 : Action σ Nat) t := by
      have broadcast : site.announce (.newClass ref) s =
          ((site.host.read s).channels.newClass.broadcast (site.call (.newClass ref))) s := rfl
      rw [broadcast, Channel.broadcast, handlers]
      exact Action.bind_of_eq (Action.bind_of_ok run)
    rw [heard]
    apply Tells.then_bystand (.same host written) stalled
    apply Bystands.bind
    · exact .forM fun handler member => attended.others _ handler.2 (bystanders handler member)
    · exact fun _ => .pure _
  · have tells := announce_of_calls
      (fun handler => attended.without_clerks.others (.newClass ref) handler id) s stalled
    exact ⟨tells.parked, tells.names, tells.rooted, fun clerks => absurd clerks first⟩

theorem step_bystands {f : AssemblyHost H → α × AssemblyHost H}
    (parked : ∀ host, (f host).2.parked = host.parked)
    (names : ∀ host name, host.graph.findClass? name = none →
      (f host).2.graph.findClass? name = none)
    (rooted : ∀ host, host.graph.Rooted → (f host).2.graph.Rooted)
    (channels : ∀ host, (f host).2.channels = host.channels) :
    site.Bystands clerk diary (site.host.step f) :=
  fun _ _ => attended.replacing (parked _) (names _) (rooted _) (channels _)

theorem begin_load (assembly : String) :
    site.Bystands clerk diary (site.beginLoad assembly) := by
  apply Bystands.bind
  · exact attended.write _
  · exact fun _ _ _ => attended.replacing rfl (fun _ => id) id rfl

theorem finish_load (assembly : String) :
    site.Bystands clerk diary (site.finishLoad assembly) := by
  apply Bystands.bind
  · exact attended.step_bystands (fun _ => rfl) (fun _ _ => id) (fun _ => id) fun _ => rfl
  · intro finished
    cases finished with
    | false => exact .pure _
    | true =>
        apply Bystands.bind
        · exact attended.write _
        · intro _
          apply Bystands.bind
          · exact attended.announce rfl
          · exact fun _ => .pure _

theorem load_assembly (assembly : String) {generate : Action σ (Except HostError α)}
    (inside : site.Bystands clerk diary generate) :
    site.Bystands clerk diary (site.loadAssembly assembly generate) := by
  apply Bystands.bind
  · exact attended.begin_load assembly
  intro _
  apply Bystands.bind
  · apply inside.onInterrupt
    intro s
    exact (attended.noting _ s).trans (attended.replacing rfl (fun _ => id) id rfl)
  intro result
  apply Bystands.bind
  · exact attended.finish_load assembly
  · rintro (_ | _)
    · exact .pure _
    · exact .pure _

theorem publish {graph : TypeGraph} {news : Announcement} (answer : α)
    (aside : news.newClass? = none) (stalled : (site.host.read s).Stalled)
    (names : graph.classNames = (site.graph s).classNames)
    (classes : graph.classes = (site.graph s).classes) :
    site.Tells clerk diary [] s (stateAfter ((do
      site.host.modify fun host => { host with graph }
      let _ ← site.announce news
      return answer : Action σ α) s)) := by
  have step : site.host.modify (fun host => { host with graph }) s =
      .ok () (site.host.write { site.host.read s with graph } s) := rfl
  have same (name : TypeName) : graph.findClass? name = (site.graph s).findClass? name :=
    congrArg (Catalog.get? · name) names
  rw [Action.bind_of_ok step]
  apply Tells.then_bystand
  · exact attended.replacing rfl (fun name free => (same name).trans free)
      (fun rooted => rooted.of_classes classes) rfl
  · exact stalled
  · apply Bystands.bind
    · exact attended.announce aside
    · exact fun _ => .pure _

theorem define_struct (d : ManagedStruct) : site.Bystands clerk diary (site.defineStruct d) := by
  intro s stalled
  have looked : site.host.get s = .ok (site.host.read s) s := rfl
  unfold defineStruct
  rw [Action.bind_of_ok looked]
  cases defined : (site.host.read s).graph.defineStruct d with
  | error e => exact .refl s
  | ok made =>
      obtain ⟨_, _, same⟩ := TypeGraph.define_struct_frame defined
      exact attended.publish _ rfl stalled (by rw [same]; rfl) (by rw [same]; rfl)

theorem define_enum (d : ManagedEnum) : site.Bystands clerk diary (site.defineEnum d) := by
  intro s stalled
  have looked : site.host.get s = .ok (site.host.read s) s := rfl
  unfold defineEnum
  rw [Action.bind_of_ok looked]
  cases defined : (site.host.read s).graph.defineEnum d with
  | error e => exact .refl s
  | ok made =>
      obtain ⟨_, _, same⟩ := TypeGraph.define_enum_frame defined
      exact attended.publish _ rfl stalled (by rw [same]; rfl) (by rw [same]; rfl)

theorem edit {edit : Session.GraphEdit} (classless : ∀ c, edit ≠ .addClass c)
    (rooted : ∀ g : TypeGraph, g.Rooted → (edit.apply g).2.Rooted) :
    site.Bystands clerk diary (site.edit edit) :=
  attended.step_bystands (fun _ => rfl) (fun host _ => edit_no_names classless host.graph)
    (fun host => rooted host.graph) fun _ => rfl

end Attended

end Site

end AssemblyHost

end BlueprintBridge
