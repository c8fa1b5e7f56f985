import BlueprintBridge.Proofs.Host.Calls
import BlueprintBridge.Proofs.Host.Retelling
import BlueprintBridge.Proofs.Host.SingleRoot

/-!
# Definitions that are overruled by older ones

A definition that waits for its parent is tried again whenever the host retries, and then nobody
asks whether its name was defined anew in the meantime. So the definition that gave a class last
stands until an older one of its name is taken up, and from then on the last one taken up has its
way; each waiting definition is taken up once at most. Where none of the name waited, the definition
stands for good.
-/

namespace BlueprintBridge

set_option autoImplicit false

namespace Trial

def taken? : Trial → Option ClassDefinition
  | ⟨_, _, .ok none, _⟩ => none
  | ⟨d, _, _, _⟩ => some d

theorem taken_perm (trials : List Trial) :
    (trials.filterMap taken?).Perm
      (trials.filterMap madeFrom? ++ trials.filterMap droppedFrom?) := by
  induction trials with
  | nil => exact .nil
  | cons trial rest ih =>
      obtain ⟨d, before, answer, after⟩ := trial
      rcases answer with e | _ | ref
      · exact (ih.cons d).trans List.perm_middle.symm
      · exact ih
      · exact ih.cons d

theorem nothing_of_not_taken {trial : Trial}
    (run : trial.before.generate trial.definition = (trial.answer, trial.after))
    (waits : trial.taken? = none) : trial.parent? = none ∧ trial.owner? = none := by
  obtain ⟨d, before, answer, after⟩ := trial
  rcases answer with e | _ | ref
  · cases waits
  · cases TypeGraph.generate_cases run with
    | orphan orphan => exact ⟨parent_eq_none orphan, rfl⟩
  · cases waits

theorem definition_of_taken {trial : Trial} {older : ClassDefinition}
    (taken : trial.taken? = some older) : trial.definition = older := by
  obtain ⟨d, before, answer, after⟩ := trial
  rcases answer with e | _ | ref
  · exact Option.some.inj taken
  · cases taken
  · exact Option.some.inj taken

theorem last_eq_none {first last : TypeGraph} {trials : List Trial} {name : TypeName}
    (successive : Successive first trials last)
    (untaken : ∀ older ∈ trials.filterMap taken?, older.name ≠ name) :
    last? name parent? trials = none ∧ last? name owner? trials = none := by
  have nothing : ∀ trial ∈ trials.filter fun trial => trial.definition.name = name,
      trial.parent? = none ∧ trial.owner? = none := by
    intro trial listed
    obtain ⟨member, own⟩ := List.mem_filter.mp listed
    apply nothing_of_not_taken (successive.generate member)
    cases taken : trial.taken? with
    | none => rfl
    | some older =>
        have listed := List.mem_filterMap.mpr ⟨trial, member, taken⟩
        rw [definition_of_taken taken] at own
        exact absurd (of_decide_eq_true own) (untaken older listed)
  unfold last?
  rw [List.filterMap_eq_nil_iff.mpr fun trial member => (nothing trial member).1,
    List.filterMap_eq_nil_iff.mpr fun trial member => (nothing trial member).2]
  exact ⟨rfl, rfl⟩

end Trial

namespace AssemblyHost

variable {H : Type} {before : AssemblyHost H} {d : ClassDefinition} {name : TypeName}
  {ref : ClassRef} {calls late : List Call}

def trialsOf (host : AssemblyHost H) : Call → List Trial
  | .define d => [⟨d, host.graph, (host.graph.generate d).1, (host.graph.generate d).2⟩]
  | .retry => host.graph.allTrials host.parked

def trials (host : AssemblyHost H) : List Call → List Trial
  | [] => []
  | call :: rest => host.trialsOf call ++ (host.took call).trials rest

theorem graph_defined (host : AssemblyHost H) (d : ClassDefinition) :
    (host.defined d).graph = (host.graph.generate d).2 := by
  unfold defined
  split
  · next run => rw [run]
  · next run => rw [run]

theorem took_successive (host : AssemblyHost H) (call : Call) :
    Trial.Successive host.graph (host.trialsOf call) (host.took call).graph := by
  cases call with
  | define d => exact ⟨rfl, rfl, (host.graph_defined d).symm⟩
  | retry => exact (TypeGraph.settle_account _ _).successive

theorem after_successive (host : AssemblyHost H) (calls : List Call) :
    Trial.Successive host.graph (host.trials calls) (host.after calls).graph := by
  induction calls generalizing host with
  | nil => rfl
  | cons call rest ih => exact (host.took_successive call).append (ih _)

theorem after_attainable (attainable : before.graph.Attainable) (calls : List Call) :
    (before.after calls).graph.Attainable := by
  have changes := TypeGraph.changes_of_successive (before.after_successive calls)
  exact attainable.trans (Relation.ReflTransGen.mono (fun _ _ => .change) _ _ changes)

def Silent (name : TypeName) (calls : List Call) : Prop :=
  ∀ d, .define d ∈ calls → d.name ≠ name

theorem took_once (host : AssemblyHost H) (call : Call) (silent : Silent name [call]) :
    (host.parked.filter fun d => d.name = name).Perm
      (((host.trialsOf call).filterMap Trial.taken?).filter (fun d => d.name = name) ++
        (host.took call).parked.filter fun d => d.name = name) := by
  cases call with
  | define d =>
      -- A definition of another name counts in neither list, parked or not.
      have other : d.name ≠ name := silent d (List.mem_singleton_self _)
      obtain ⟨answer, graph, run⟩ : ∃ answer graph, host.graph.generate d = (answer, graph) :=
        ⟨_, _, rfl⟩
      unfold took defined trialsOf
      rcases answer with e | _ | ref <;> simp [run, List.filterMap_cons, Trial.taken?, other]
  | retry =>
      have once := (TypeGraph.settlement host.graph host.parked).once
      have taken := (Trial.taken_perm (host.graph.allTrials host.parked)).symm
      have parted := (once.trans (taken.append_right _)).filter fun d => d.name = name
      rw [List.filter_append] at parted
      exact parted

/-- Definitions of a name that is not defined anew wait until they are taken up, each once. -/
theorem after_once (host : AssemblyHost H) (silent : Silent name calls) :
    (host.parked.filter fun d => d.name = name).Perm
      (((host.trials calls).filterMap Trial.taken?).filter (fun d => d.name = name) ++
        (host.after calls).parked.filter fun d => d.name = name) := by
  induction calls generalizing host with
  | nil => exact .refl _
  | cons call rest ih =>
      have first := host.took_once call fun d member =>
        silent d (List.mem_singleton.mp member ▸ List.mem_cons_self ..)
      have later := ih (host.took call) fun d member => silent d (List.mem_cons_of_mem _ member)
      have both := first.trans (later.append_left _)
      rw [trials, List.filterMap_append, List.filter_append, List.append_assoc]
      exact both

/-- What a definition answers, unless a handler throws. -/
def answer (host : AssemblyHost H) (d : ClassDefinition) : Except HostError (Option ClassRef) :=
  (host.graph.generate d).1.mapError .graph

/-- A definition that gave a class has its way: the class is under the parent that was resolved for
it, and has the owner that it names, if it names one. -/
def Stands (before : AssemblyHost H) (d : ClassDefinition) (ref : ClassRef) (now : TypeGraph) :
    Prop :=
  now.parent? ref = before.graph.parentFor? d ∧
    ∀ owner, d.blueprint = some owner → now.ownerOf? ref = some owner

def trialsSince (before : AssemblyHost H) (d : ClassDefinition) (late : List Call) : List Trial :=
  (before.defined d).trials late

/-- What became of the class that a definition gave, after calls that do not define it anew. -/
structure Sequel (before : AssemblyHost H) (d : ClassDefinition) (ref : ClassRef) (late : List Call)
    (now : AssemblyHost H) : Prop where
  reached : now = (before.defined d).after late
  named : now.graph.findClass? d.name = some ref
  /-- What waited of the name was taken up, once each, or waits still. -/
  once : (before.parked.filter fun older => older.name = d.name).Perm
    (((before.trialsSince d late).filterMap Trial.taken?).filter
        (fun older => older.name = d.name) ++
      now.parked.filter fun older => older.name = d.name)
  /-- The last definition taken up that placed the class has its way. -/
  parent : now.graph.parent? ref =
    (Trial.last? d.name Trial.parent? (before.trialsSince d late)).or (before.graph.parentFor? d)
  owner : ∀ owner, d.blueprint = some owner → now.graph.ownerOf? ref =
    some ((Trial.last? d.name Trial.owner? (before.trialsSince d late)).getD owner)
  stands_iff : before.Stands d ref now.graph ↔
    (∀ parent, Trial.last? d.name Trial.parent? (before.trialsSince d late) = some parent →
      before.graph.parentFor? d = some parent) ∧
    ∀ owner other, d.blueprint = some owner →
      Trial.last? d.name Trial.owner? (before.trialsSince d late) = some other → other = owner
  alone : (∀ older ∈ before.parked, older.name ≠ d.name) → before.Stands d ref now.graph

theorem defined_stands (attainable : before.graph.Attainable)
    (answered : before.answer d = .ok (some ref))
    (short : (before.defined d).graph.classes.slots.length < UInt32.size) :
    (before.defined d).parked = before.parked ∧
      (before.defined d).graph.findClass? d.name = some ref ∧
      before.Stands d ref (before.defined d).graph := by
  obtain ⟨made, graph, run⟩ : ∃ made graph, before.graph.generate d = (made, graph) := ⟨_, _, rfl⟩
  obtain rfl : made = .ok (some ref) := by
    rw [answer, run] at answered
    rcases made with e | made <;> cases answered
    rfl
  have defined : before.defined d = { before with graph } := by
    rw [AssemblyHost.defined, run]
  rw [defined] at short ⊢
  have changes := before.graph.generate_changes d
  rw [run] at changes
  have room := Nat.lt_of_le_of_lt (TypeGraph.slots_le_of_changes changes) short
  exact ⟨rfl, TypeGraph.made_stands (attainable.indexed room) run short⟩

theorem untaken_of_alone (alone : ∀ older ∈ before.parked, older.name ≠ name)
    (silent : Silent name late) :
    ∀ older ∈ (before.trials late).filterMap Trial.taken?, older.name ≠ name := by
  intro older taken own
  have once := before.after_once silent
  have none : (before.parked.filter fun older => older.name = name) = [] :=
    List.filter_eq_nil_iff.mpr fun older waits => by simpa using alone older waits
  rw [none, List.nil_perm, List.append_eq_nil_iff] at once
  exact List.filter_eq_nil_iff.mp once.1 older taken (decide_eq_true own)

/-- What was told of a class last decides whether a definition has its way. -/
theorem stands_iff_of_last {now : TypeGraph} {toldParent : Option ClassRef}
    {toldOwner : Option BlueprintRef}
    (parent : now.parent? ref = toldParent.or (before.graph.parentFor? d))
    (owner : ∀ owner, d.blueprint = some owner →
      now.ownerOf? ref = some (toldOwner.getD owner)) :
    before.Stands d ref now ↔
      (∀ parent, toldParent = some parent → before.graph.parentFor? d = some parent) ∧
      ∀ owner other, d.blueprint = some owner → toldOwner = some other → other = owner := by
  unfold Stands
  rw [parent]
  apply and_congr
  · cases toldParent <;> simp [eq_comm]
  · constructor
    · intro stands asked other asks given
      have owns := stands asked asks
      rw [owner asked asks, given] at owns
      exact Option.some.inj owns
    · intro agree asked asks
      rw [owner asked asks]
      cases toldOwner with
      | none => rfl
      | some other => exact congrArg some (agree asked other asks rfl)

theorem sequel (attainable : before.graph.Attainable) (answered : before.answer d = .ok (some ref))
    (silent : Silent d.name late)
    (short : ((before.defined d).after late).graph.classes.slots.length < UInt32.size) :
    Sequel before d ref late ((before.defined d).after late) := by
  have successive := (before.defined d).after_successive late
  have grown := TypeGraph.slots_le_of_changes (TypeGraph.changes_of_successive successive)
  have room := Nat.lt_of_le_of_lt grown short
  obtain ⟨parked, named, resolved, owned⟩ := defined_stands attainable answered room
  have indexed : (before.defined d).graph.Indexed :=
    (after_attainable attainable [.define d]).indexed room
  have told := successive.retold indexed named short
  have parent := told.parent
  rw [resolved] at parent
  have owner : ∀ owner, d.blueprint = some owner →
      ((before.defined d).after late).graph.ownerOf? ref =
        some ((Trial.last? d.name Trial.owner? ((before.defined d).trials late)).getD owner) := by
    intro owner asks
    rw [told.owner, owned owner asks, Option.or_some]
  have stands_iff := stands_iff_of_last parent owner
  constructor
  case reached => rfl
  case named => exact told.named
  case once =>
    have once := (before.defined d).after_once silent
    rw [parked] at once
    exact once
  case parent => exact parent
  case owner => exact owner
  case stands_iff => exact stands_iff
  case alone =>
    intro alone
    rw [← parked] at alone
    obtain ⟨noParent, noOwner⟩ := Trial.last_eq_none successive (untaken_of_alone alone silent)
    rw [stands_iff, noParent, noOwner]
    constructor
    · rintro _ ⟨⟩
    · rintro _ _ _ ⟨⟩

end AssemblyHost

namespace Defining

open AssemblyHost (Call Silent)

/-- What became of each class that the latest definition of its name gave. -/
def Moment.Sequels (start : AssemblyHost Nat) (m : Moment) : Prop :=
  m.host.graph.classes.slots.length < UInt32.size →
    ∀ early d late ref, m.journal = early ++ .define d :: late → Silent d.name late →
      (start.after early).answer d = .ok (some ref) → (start.after early).Sequel d ref late m.host

theorem Moment.Told.sequels {start : AssemblyHost Nat} {m : Moment} (told : m.Told start)
    (attainable : start.graph.Attainable) : m.Sequels start := by
  intro short early d late ref split silent answered
  have host : m.host = ((start.after early).defined d).after late := by
    rw [told, split, AssemblyHost.after_append]
    rfl
  rw [host] at short ⊢
  exact AssemblyHost.sequel (AssemblyHost.after_attainable attainable early) answered silent short

/-- Whatever is called, also by subscribers, a call that comes back gives the answer of the host it
was made of; and at every moment the latest definition that gave a class stands, but for the older
ones of its name that waited then and were taken up since. -/
theorem latest_definition_stands_iff {R : Type} (react : Nat → Announcement → Errand R)
    (depth : Nat) (errand : Errand R) (start : AssemblyHost Nat)
    (attainable : start.graph.Attainable) :
    (∀ react d w answer t, (siteWith react).defineClass d w = .ok answer t →
      answer = w.now.host.answer d) ∧
    (stateAfter (errand.run (siteAt react depth) (fresh start))).Always (Moment.Sequels start) := by
  constructor
  · intro react d w answer t defined
    exact AssemblyHost.Site.define_class_answer defined
  · intro m member
    exact (journal_tells_host react depth errand start m member).sequels attainable

def framedDoor : ClassDefinition where
  name := ⟨"Game", "", "Door"⟩
  superName := some ⟨"Game", "", "Frame"⟩
  blueprint := some ⟨0, 0⟩

def plainDoor : ClassDefinition where
  name := ⟨"Game", "", "Door"⟩
  blueprint := some ⟨1, 0⟩

def doorFrame : ClassDefinition where
  name := ⟨"Game", "", "Frame"⟩

def workshop : AssemblyHost Nat where
  graph := ((TypeGraph.initial.addBlueprint ⟨"BP_OldDoor", .managed, none, none⟩).2.addBlueprint
    ⟨"BP_Door", .managed, none, none⟩).2
  channels := { Channels.initial with newClass := ⟨"OnNewClass", [(1, 0)]⟩ }

theorem workshop_attainable : workshop.graph.Attainable :=
  .tail (.tail .refl (.change (.addBlueprint _ _))) (.change (.addBlueprint _ _))

def hangDoor : Errand Unit :=
  .define framedDoor fun _ => .define plainDoor fun _ => .define doorFrame fun _ =>
  .retry fun _ => .done ()

def eager (_ : Nat) (news : Announcement) : Errand Unit :=
  match news with
  | .newClass _ => .retry fun _ => .done ()
  | _ => .done ()

theorem frame_silent {late : List Call}
    (calls : ∀ call ∈ late, call = .define doorFrame ∨ call = .retry) :
    Silent plainDoor.name late := by
  intro d member
  rcases calls _ member with same | same
  · cases same
    decide
  · cases same

theorem plain_door_followed :
    let finish := stateAfter (hangDoor.run (siteAt eager 3) (fresh workshop))
    let before := workshop.after [.define framedDoor]
    let late := [.retry, .define doorFrame, .retry, .retry, .retry]
    workshop.graph.Attainable ∧ finish.Always (Moment.Sequels workshop) ∧
      finish.now.journal = [.define framedDoor] ++ .define plainDoor :: late ∧
      before.Sequel plainDoor ⟨2, 0⟩ late finish.now.host ∧
      ¬ before.Stands plainDoor ⟨2, 0⟩ finish.now.host.graph := by
  intro finish before late
  have sequels : finish.Always (Moment.Sequels workshop) :=
    (latest_definition_stands_iff eager 3 hangDoor workshop workshop_attainable).2
  have journal : finish.now.journal = [.define framedDoor] ++ .define plainDoor :: late := by
    decide +kernel
  have short : finish.now.host.graph.classes.slots.length < UInt32.size := by decide +kernel
  have answered : before.answer plainDoor = .ok (some ⟨2, 0⟩) := by decide +kernel
  have silent : Silent plainDoor.name late := frame_silent (by decide +kernel)
  refine ⟨workshop_attainable, sequels, journal, ?_, ?_⟩
  · exact sequels.now short _ _ _ _ journal silent answered
  · intro stands
    have moved : finish.now.host.graph.parent? ⟨2, 0⟩ ≠ before.graph.parentFor? plainDoor := by
      decide +kernel
    exact moved stands.1

/-- The older door was parked before the newer one was made, and has its way once there is a
frame. -/
theorem older_door_overrules_newer :
    let finish := stateAfter (hangDoor.run (siteAt (fun _ _ => Errand.done ()) 1) (fresh workshop))
    let before := workshop.after [.define framedDoor]
    let late := [.define doorFrame, .retry]
    finish.now.journal = [.define framedDoor] ++ .define plainDoor :: late ∧
      Silent plainDoor.name late ∧ before.answer plainDoor = .ok (some ⟨2, 0⟩) ∧
      before.graph.parentFor? plainDoor = some ⟨0, 0⟩ ∧
      finish.now.host.graph.parent? ⟨2, 0⟩ = some ⟨3, 0⟩ ∧
      plainDoor.blueprint = some ⟨1, 0⟩ ∧
      finish.now.host.graph.ownerOf? ⟨2, 0⟩ = some ⟨0, 0⟩ ∧
      ¬ before.Stands plainDoor ⟨2, 0⟩ finish.now.host.graph := by
  intro finish before late
  have resolved : before.graph.parentFor? plainDoor = some ⟨0, 0⟩ := by decide +kernel
  have moved : finish.now.host.graph.parent? ⟨2, 0⟩ = some ⟨3, 0⟩ := by decide +kernel
  refine ⟨by decide +kernel, frame_silent (by decide +kernel), by decide +kernel, resolved, moved,
    rfl, by decide +kernel, ?_⟩
  rintro ⟨parent, _⟩
  rw [resolved, moved] at parent
  cases parent

end Defining

end BlueprintBridge
