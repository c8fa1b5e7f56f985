import BlueprintBridge.Proofs.Graph.Standing
import BlueprintBridge.Proofs.Host.Bystanders
import BlueprintBridge.Proofs.Host.QuietSubscribers

/-!
# Retrying parked definitions among bystanders

From a graph without a cycle, trials only come to others without one, so each climb that they ask
for ends. When the first subscriber is called, what is still parked waits for names that nobody
registers. So the classes that subscribers hear of are those that retrying made, in the order they
were made, and then the host tells how many it made and how many are still parked.
-/

namespace BlueprintBridge.AssemblyHost.Site

set_option autoImplicit false

variable {σ H α β : Type}

def tellClasses (site : Site σ H) (refs : List ClassRef) : Action σ Unit :=
  refs.forM fun ref => do let _ ← site.announce (.newClass ref)

def stillWaiting (remaining : Nat) : List Record :=
  if remaining > 0 then
    [⟨.warn, s!"{remaining} managed class definitions still wait on a missing parent"⟩]
  else []

def tellCounts (site : Site σ H) (processed remaining : Nat) : Action σ Nat := do
  site.write (stillWaiting remaining)
  let _ ← site.announce (.pendingProcessed processed remaining)
  return processed

def tellOutcome (site : Site σ H) (refs : List ClassRef) (remaining : Nat) : Action σ Nat := do
  site.tellClasses refs
  site.tellCounts refs.length remaining

def settledState (site : Site σ H) (s : σ) : σ :=
  ((site.host.read s).graph.settle (site.host.read s).parked).records.foldl
    (fun s record => site.note record s) (site.host.write (site.host.read s).retried s)

/-- Every handler comes back, where all that is parked waits and no cycle is closed. -/
def Answers (site : Site σ H) : Prop :=
  ∀ news handler s, (site.host.read s).Stalled → ∃ t, site.call news handler s = .ok () t

/-- Programs that use a host in any way but to define classes and to close a cycle by an edit. What
is done aside touches neither the host nor the diary. -/
inductive Classless (site : Site σ H) (clerk : H → Prop) (diary : σ → List ClassRef) :
    {α : Type} → Action σ α → Prop where
  | aside {α : Type} {action : Action σ α}
      (same : ∀ s, site.host.read (stateAfter (action s)) = site.host.read s ∧
        diary (stateAfter (action s)) = diary s) : Classless site clerk diary action
  | andThen {α β : Type} {first : Action σ α} {next : α → Action σ β}
      (before : Classless site clerk diary first)
      (after : ∀ value, Classless site clerk diary (next value)) :
      Classless site clerk diary (first >>= next)
  | caught {α : Type} {body : Action σ α} (inside : Classless site clerk diary body) :
      Classless site clerk diary body.caught
  /-- Attaches and detaches handlers, but for the clerk. -/
  | rewire (f : Channels H → Channels H)
      (keeps : ∀ host : AssemblyHost H, host.ClerkFirst clerk →
        ClerkFirst clerk { host with channels := f host.channels }) :
      Classless site clerk diary
        (site.host.modify fun host => { host with channels := f host.channels })
  | processPending : Classless site clerk diary site.processPending
  | defineStruct (d : ManagedStruct) : Classless site clerk diary (site.defineStruct d)
  | defineEnum (d : ManagedEnum) : Classless site clerk diary (site.defineEnum d)
  | edit (edit : Session.GraphEdit) (classless : ∀ c, edit ≠ .addClass c)
      (rooted : ∀ g : TypeGraph, g.Rooted → (edit.apply g).2.Rooted) :
      Classless site clerk diary (site.edit edit)
  | beginLoad (assembly : String) : Classless site clerk diary (site.beginLoad assembly)
  | finishLoad (assembly : String) : Classless site clerk diary (site.finishLoad assembly)
  | loadAssembly {α : Type} (assembly : String) {generate : Action σ (Except HostError α)}
      (inside : Classless site clerk diary generate) :
      Classless site clerk diary (site.loadAssembly assembly generate)

variable {site : Site σ H} {clerk : H → Prop} {diary : σ → List ClassRef} {s t u : σ}
  {refs more : List ClassRef}

namespace Attended

variable (attended : site.Attended clerk diary)

include attended

theorem tell_classes_ok (stalled : (site.host.read s).Stalled)
    (told : site.tellClasses refs s = .ok () t) : site.Tells clerk diary refs s t := by
  induction refs generalizing s with
  | nil =>
      cases told
      exact .refl _
  | cons ref rest ih =>
      obtain ⟨_, middle, first, told⟩ := Action.bind_eq_ok.mp told
      obtain ⟨_, _, announced, last⟩ := Action.bind_eq_ok.mp first
      cases last
      have heard := attended.announce_class ref stalled
      rw [announced] at heard
      exact heard.trans (ih (heard.stalled stalled) told)

theorem tell_classes_error {interruption : Interruption} (stalled : (site.host.read s).Stalled)
    (thrown : site.tellClasses refs s = .error interruption t) :
    ∃ told untold, refs = told ++ untold ∧ site.Tells clerk diary told s t := by
  induction refs generalizing s with
  | nil => cases thrown
  | cons ref rest ih =>
      have heard := attended.announce_class ref stalled
      rcases Action.bind_eq_error.mp thrown with first | ⟨_, middle, first, later⟩
      · rcases Action.bind_eq_error.mp first with announced | ⟨_, _, _, impossible⟩
        · rw [announced] at heard
          exact ⟨[ref], rest, rfl, heard⟩
        · cases impossible
      · obtain ⟨_, _, announced, last⟩ := Action.bind_eq_ok.mp first
        cases last
        rw [announced] at heard
        obtain ⟨told, untold, split, tells⟩ := ih (heard.stalled stalled) later
        exact ⟨ref :: told, untold, by rw [split]; rfl, heard.trans tells⟩

theorem tell_counts (processed remaining : Nat) :
    site.Bystands clerk diary (site.tellCounts processed remaining) := by
  apply Bystands.bind
  · exact attended.write _
  · intro _
    apply Bystands.bind
    · exact attended.announce rfl
    · exact fun _ => .pure _

theorem tell_outcome_ok {count remaining : Nat} (stalled : (site.host.read s).Stalled)
    (told : site.tellOutcome refs remaining s = .ok count t) :
    count = refs.length ∧ site.Tells clerk diary refs s t := by
  obtain ⟨_, middle, classes, counts⟩ := Action.bind_eq_ok.mp told
  have heard := attended.tell_classes_ok stalled classes
  have rest := heard.then_bystand stalled (attended.tell_counts refs.length remaining)
  rw [counts] at rest
  obtain ⟨_, _, _, counts⟩ := Action.bind_eq_ok.mp counts
  obtain ⟨_, _, _, counts⟩ := Action.bind_eq_ok.mp counts
  cases counts
  exact ⟨rfl, rest⟩

theorem tell_outcome_error {remaining : Nat} {interruption : Interruption}
    (stalled : (site.host.read s).Stalled)
    (thrown : site.tellOutcome refs remaining s = .error interruption t) :
    ∃ told untold, refs = told ++ untold ∧ site.Tells clerk diary told s t := by
  rcases Action.bind_eq_error.mp thrown with classes | ⟨_, middle, classes, counts⟩
  · exact attended.tell_classes_error stalled classes
  · have heard := attended.tell_classes_ok stalled classes
    have rest := heard.then_bystand stalled (attended.tell_counts refs.length remaining)
    rw [counts] at rest
    exact ⟨refs, [], by rw [List.append_nil], rest⟩

theorem read_notes (records : List Record) (s : σ) :
    site.host.read (records.foldl (fun s record => site.note record s) s) = site.host.read s ∧
      diary (records.foldl (fun s record => site.note record s) s) = diary s := by
  induction records generalizing s with
  | nil => exact ⟨rfl, rfl⟩
  | cons record rest ih =>
      have ⟨host, unread⟩ := attended.noted record s
      have ⟨later, last⟩ := ih (site.note record s)
      exact ⟨later.trans host, last.trans unread⟩

theorem read_settled (s : σ) : site.host.read (site.settledState s) = (site.host.read s).retried ∧
    diary (site.settledState s) = diary s := by
  have ⟨host, unread⟩ := attended.read_notes
    ((site.host.read s).graph.settle (site.host.read s).parked).records
    (site.host.write (site.host.read s).retried s)
  rw [attended.lawful.read_write] at host
  rw [attended.written] at unread
  exact ⟨host, unread⟩

theorem settled_stalled (rooted : (site.graph s).Rooted) :
    (site.host.read (site.settledState s)).Stalled := by
  rw [(attended.read_settled s).1]
  have based : (site.graph s).Based (site.graph s).componentClass := ⟨rooted, rfl⟩
  exact ⟨(TypeGraph.settlement _ _).waiting, (based.settle _).rooted⟩

/-- Retrying is settling what is parked in silence, and then telling what came of it. -/
theorem process_pending_eq (rooted : (site.graph s).Rooted) :
    site.processPending s =
      site.tellOutcome ((site.host.read s).graph.settle (site.host.read s).parked).value.generated
        (site.host.read s).retried.parked.length (site.settledState s) := by
  have step : (site.host.step fun host =>
      let settled := host.graph.settle host.parked
      (settled, { host with graph := settled.value.graph, parked := settled.value.parked })) s =
      .ok ((site.host.read s).graph.settle (site.host.read s).parked)
        (site.host.write (site.host.read s).retried s) := rfl
  have writing : site.write ((site.host.read s).graph.settle (site.host.read s).parked).records
      (site.host.write (site.host.read s).retried s) = .ok () (site.settledState s) := rfl
  unfold processPending tellOutcome
  rw [Action.bind_of_ok step, Action.bind_of_ok writing]
  have stalled := attended.settled_stalled rooted
  generalize ((site.host.read s).graph.settle (site.host.read s).parked).value.generated = refs
  cases run : site.tellClasses refs (site.settledState s) with
  | ok _ t =>
      have tells := attended.tell_classes_ok stalled run
      have parked : (site.host.read t).parked.length =
          (site.host.read s).retried.parked.length := by
        rw [tells.parked, (attended.read_settled s).1]
      have looked : site.host.get t = .ok (site.host.read t) t := rfl
      rw [Action.bind_of_ok run]
      refine (Action.bind_of_ok run).trans ((Action.bind_of_ok looked).trans ?_)
      rw [parked]
      unfold tellCounts stillWaiting
      split
      · rfl
      · rfl
  | error interruption t =>
      rw [Action.bind_eq_error.mpr (.inl run)]
      exact Action.bind_eq_error.mpr (.inl run)

theorem calls_return (news : Announcement) (answers : site.Answers) (handlers : List (Nat × H))
    (stalled : (site.host.read s).Stalled) :
    ∃ t, handlers.forM (fun handler => site.call news handler.2) s = .ok () t ∧
      (site.host.read t).Stalled := by
  induction handlers generalizing s with
  | nil => exact ⟨s, rfl, stalled⟩
  | cons handler rest ih =>
      obtain ⟨middle, run⟩ := answers news handler.2 s stalled
      have tells := attended.without_clerks.others news handler.2 id s stalled
      rw [run] at tells
      obtain ⟨t, later, last⟩ := ih (tells.stalled stalled)
      exact ⟨t, (Action.bind_of_ok run).trans later, last⟩

theorem announce_returns (news : Announcement) (answers : site.Answers)
    (stalled : (site.host.read s).Stalled) :
    ∃ count t, site.announce news s = .ok count t ∧ (site.host.read t).Stalled := by
  obtain ⟨t, run, last⟩ := attended.calls_return news answers
    ((site.host.read s).channels.get news.kind).handlers stalled
  exact ⟨_, t, Action.bind_of_ok run, last⟩

theorem tell_classes_returns (answers : site.Answers) (refs : List ClassRef)
    (stalled : (site.host.read s).Stalled) :
    ∃ t, site.tellClasses refs s = .ok () t ∧ (site.host.read t).Stalled := by
  induction refs generalizing s with
  | nil => exact ⟨s, rfl, stalled⟩
  | cons ref rest ih =>
      obtain ⟨_, middle, run, still⟩ := attended.announce_returns (.newClass ref) answers stalled
      obtain ⟨t, later, last⟩ := ih still
      have told : (do let _ ← site.announce (.newClass ref) : Action σ Unit) s =
          .ok () middle := Action.bind_of_ok run
      exact ⟨t, (Action.bind_of_ok told).trans later, last⟩

theorem process_pending_returns (answers : site.Answers) (rooted : (site.graph s).Rooted) :
    ∃ count t, site.processPending s = .ok count t := by
  rw [attended.process_pending_eq rooted]
  obtain ⟨told, run, stalled⟩ := attended.tell_classes_returns answers
    ((site.host.read s).graph.settle (site.host.read s).parked).value.generated
    (attended.settled_stalled rooted)
  have noted : site.write (stillWaiting (site.host.read s).retried.parked.length) told =
      .ok () _ := rfl
  have quiet := attended.write (stillWaiting (site.host.read s).retried.parked.length) told stalled
  obtain ⟨_, t, announced, _⟩ := attended.announce_returns (.pendingProcessed
    ((site.host.read s).graph.settle (site.host.read s).parked).value.generated.length
    (site.host.read s).retried.parked.length) answers (quiet.stalled stalled)
  exact ⟨_, t, (Action.bind_of_ok run).trans
    ((Action.bind_of_ok noted).trans (Action.bind_of_ok announced))⟩

theorem process_pending : site.Bystands clerk diary site.processPending := by
  intro s stalled
  have waiting : (site.host.read s).graph.settle (site.host.read s).parked =
      ⟨⟨(site.host.read s).graph, [], (site.host.read s).parked⟩, []⟩ :=
    TypeGraph.settle_of_waiting stalled.waiting
  have same : (site.host.read s).retried = site.host.read s := by
    unfold retried
    rw [waiting]
  have settled : site.Tells clerk diary [] s (site.settledState s) := by
    have ⟨host, unread⟩ := attended.read_settled s
    exact .same (host.trans same) (by rw [unread, List.append_nil])
  rw [attended.process_pending_eq stalled.rooted, waiting]
  exact settled.then_bystand stalled (attended.tell_counts _ _)

/-- Programs that define no classes are bystanders. -/
theorem classless {action : Action σ α} (program : site.Classless clerk diary action) :
    site.Bystands clerk diary action := by
  induction program with
  | aside same =>
      intro s _
      have ⟨host, unread⟩ := same s
      exact .same host (by rw [unread, List.append_nil])
  | andThen _ _ before after => exact before.bind after
  | caught _ inside => exact inside.caught
  | rewire f keeps =>
      intro s _
      have read := attended.lawful.read_write
        { site.host.read s with channels := f (site.host.read s).channels } s
      constructor
      · have kept := congrArg AssemblyHost.parked read
        exact kept
      · intro name free
        have kept := congrArg (fun host : AssemblyHost H => host.graph.findClass? name) read
        exact kept.trans free
      · intro rooted
        have kept := congrArg (fun host : AssemblyHost H => host.graph.classes) read
        exact rooted.of_classes kept
      · intro first
        have rewired := keeps _ first
        rw [← read] at rewired
        exact ⟨rewired, by rw [List.append_nil]; exact attended.written _ s⟩
  | processPending => exact attended.process_pending
  | defineStruct d => exact attended.define_struct d
  | defineEnum d => exact attended.define_enum d
  | edit edit classless rooted => exact attended.edit classless rooted
  | beginLoad assembly => exact attended.begin_load assembly
  | finishLoad assembly => exact attended.finish_load assembly
  | loadAssembly assembly _ inside => exact attended.load_assembly assembly inside

/-- Subscribers that are such programs themselves nest. -/
theorem nest {outer : Site σ H} (host : outer.host = site.host) (note : outer.note = site.note)
    (clerks : ∀ news handler, clerk handler → outer.call news handler = site.call news handler)
    (programs : ∀ news handler, ¬ clerk handler →
      site.Classless clerk diary (outer.call news handler)) :
    outer.Attended clerk diary where
  lawful := host ▸ attended.lawful
  written := host ▸ attended.written
  noted := by
    rw [host, note]
    exact attended.noted
  clerks := by
    intro news handler s writes
    rw [host, clerks news handler writes]
    exact attended.clerks news handler s writes
  others := by
    intro news handler bystander s stalled
    rw [host] at stalled
    have tells := attended.classless (programs news handler bystander) s stalled
    exact ⟨host ▸ tells.parked, by simpa only [graph, host] using tells.names,
      by simpa only [graph, host] using tells.rooted, host ▸ tells.heard⟩

end Attended

/-- What becomes of the definitions that are parked, and what is told of it. -/
structure Retrial (site : Site σ H) (clerk : H → Prop) (diary : σ → List ClassRef) (s : σ)
    (pass : Logged Pass) : Prop where
  settlement : Settlement (site.graph s) (site.host.read s).parked
    ((site.graph s).allTrials (site.host.read s).parked) pass
  /-- Each climb that a trial may ask for ends, and answers as the bounded one. -/
  climbs : ∀ trial ∈ (site.graph s).allTrials (site.host.read s).parked, ∀ ref base,
    ∃ visited, visited.Nodup ∧
      trial.before.Search base ref visited (trial.before.derivesFrom ref base)
  rooted : pass.value.graph.Rooted
  /-- Before anything is announced, the host has the graph and the definitions left. -/
  placed : site.host.read (site.settledState s) =
    { site.host.read s with graph := pass.value.graph, parked := pass.value.parked }
  /-- Each class made is announced once and in order, then the counts are, once; the answer is the
  number of classes made. -/
  told : site.processPending s = site.tellOutcome pass.value.generated pass.value.parked.length
    (site.settledState s)
  returned : ∀ count t, site.processPending s = .ok count t →
    count = pass.value.generated.length ∧ (site.host.read t).parked = pass.value.parked ∧
      (site.host.read t).Stalled ∧
      ((site.host.read s).ClerkFirst clerk → diary t = diary s ++ pass.value.generated)
  interrupted : ∀ interruption t, site.processPending s = .error interruption t →
    (site.host.read t).parked = pass.value.parked ∧ (site.host.read t).Stalled ∧
      ∃ told untold, pass.value.generated = told ++ untold ∧
        ((site.host.read s).ClerkFirst clerk → diary t = diary s ++ told)
  returns : site.Answers → ∃ t, site.processPending s = .ok pass.value.generated.length t
  bystanders : ∀ {α : Type} {action : Action σ α}, site.Classless clerk diary action →
    site.Bystands clerk diary action

/-- Whatever is parked, in a graph without a cycle, as all that checked operations lead to, retrying
takes each definition one way, and among subscribers that define no classes it tells of just that.
-/
theorem retrying_takes_each_one_way (attended : site.Attended clerk diary) (s : σ)
    (rooted : (site.graph s).Rooted) :
    site.Retrial clerk diary s ((site.graph s).settle (site.host.read s).parked) := by
  have based : (site.graph s).Based (site.graph s).componentClass := ⟨rooted, rfl⟩
  have successive := ((site.graph s).settle_account (site.host.read s).parked).successive
  have stalled := attended.settled_stalled rooted
  have ⟨host, unread⟩ := attended.read_settled s
  have told := attended.process_pending_eq rooted
  have parked : (site.host.read (site.settledState s)).parked =
      ((site.graph s).settle (site.host.read s).parked).value.parked := by
    rw [host]
    rfl
  have first (clerks : (site.host.read s).ClerkFirst clerk) :
      (site.host.read (site.settledState s)).ClerkFirst clerk := by
    rw [host]
    exact clerks
  constructor
  case settlement => exact TypeGraph.settlement _ _
  case climbs => exact fun _ member => (based.before_trial successive member).rooted.search
  case rooted => exact (based.settle _).rooted
  case placed => exact host
  case told => exact told
  case returned =>
    intro count t run
    rw [told] at run
    obtain ⟨counted, tells⟩ := attended.tell_outcome_ok stalled run
    refine ⟨counted, tells.parked.trans parked, tells.stalled stalled, fun clerks => ?_⟩
    rw [← unread]
    exact (tells.heard (first clerks)).2
  case interrupted =>
    intro interruption t run
    rw [told] at run
    obtain ⟨told, untold, split, tells⟩ := attended.tell_outcome_error stalled run
    refine ⟨tells.parked.trans parked, tells.stalled stalled, told, untold, split,
      fun clerks => ?_⟩
    rw [← unread]
    exact (tells.heard (first clerks)).2
  case returns =>
    intro answers
    obtain ⟨count, t, run⟩ := attended.process_pending_returns answers rooted
    rw [told] at run
    obtain ⟨rfl, _⟩ := attended.tell_outcome_ok stalled run
    exact ⟨t, told.trans run⟩
  case bystanders => exact attended.classless

def deskWith (react : Announcement → Action (AssemblyHost Bool × List ClassRef) Unit) :
    Site (AssemblyHost Bool × List ClassRef) Bool where
  host := ⟨Prod.fst, fun host s => (host, s.2)⟩
  note _ s := s
  call news writes :=
    if writes then fun s => .ok () (s.1, s.2 ++ news.newClass?.toList) else react news

theorem desk_attended : (deskWith fun _ => pure ()).Attended (· = true) Prod.snd where
  lawful := ⟨fun _ _ => rfl, fun _ _ _ => rfl⟩
  written _ _ := rfl
  noted _ _ := ⟨rfl, rfl⟩
  clerks news handler s writes := by
    cases writes
    exact ⟨_, rfl, rfl, rfl⟩
  others news handler bystander := by
    cases handler with
    | true => exact absurd rfl bystander
    | false => exact .pure ()

/-- Whatever the others hear of, they publish a struct, destroy a blueprint, retry what is parked,
and have one more of them listen to news of classes. -/
def busyDesk : Site (AssemblyHost Bool × List ClassRef) Bool :=
  deskWith fun _ => do
    let _ ← (deskWith fun _ => pure ()).defineStruct { name := ⟨"Game", "", "Hinge"⟩ }
    let _ ← (deskWith fun _ => pure ()).edit (.destroyBlueprint ⟨0, 0⟩)
    let _ ← (deskWith fun _ => pure ()).processPending
    (deskWith fun _ => pure ()).host.modify fun host =>
      { host with channels :=
        { host.channels with newClass := host.channels.newClass.subscribe 4 false } }

theorem busy_desk_attended : busyDesk.Attended (· = true) Prod.snd := by
  apply desk_attended.nest
  · rfl
  · rfl
  · intro news handler writes
    cases writes
    rfl
  · intro news handler bystander
    cases handler with
    | true => exact absurd rfl bystander
    | false =>
        apply Classless.andThen (.defineStruct _)
        intro _
        apply Classless.andThen
        · apply Classless.edit
          · exact fun _ same => by cases same
          · have checked : IsChecked (.destroyBlueprint ⟨0, 0⟩) := trivial
            exact fun _ => edit_rooted checked
        intro _
        apply Classless.andThen .processPending
        intro _
        apply Classless.rewire fun channels =>
          { channels with newClass := channels.newClass.subscribe 4 false }
        rintro host ⟨first, others, handlers, writes, bystanders⟩
        refine ⟨first, others ++ [(4, false)], ?_, writes, ?_⟩
        · simp [Channel.subscribe, handlers]
        · simpa [or_imp, forall_and] using bystanders

/-- The clerk listens first. Among what is parked are a door that is defined twice, a panel before
its door, a class of a blueprint that is gone, and one under itself. -/
def waitingRoom : AssemblyHost Bool × List ClassRef :=
  ({ parked := [
        { name := ⟨"Game", "", "Panel"⟩, superName := some ⟨"Game", "", "Door"⟩ },
        { name := ⟨"Game", "", "Door"⟩ },
        { name := ⟨"Game", "", "Ghost"⟩, blueprint := some ⟨7, 0⟩ },
        { name := ⟨"Game", "", "Snake"⟩, superName := some ⟨"Game", "", "Snake"⟩ },
        { name := ⟨"Game", "", "Door"⟩ }]
     channels := { Channels.initial with
        newClass := ⟨"OnNewClass", [(1, true), (2, false)]⟩
        pendingProcessed := ⟨"OnProcessedPendingClasses", [(3, false)]⟩ } }, [])

theorem waiting_room_retrial :
    busyDesk.Attended (· = true) Prod.snd ∧ (busyDesk.graph waitingRoom).Rooted ∧
    busyDesk.Retrial (· = true) Prod.snd waitingRoom
      ((busyDesk.graph waitingRoom).settle waitingRoom.1.parked) ∧
    ∃ t, busyDesk.processPending waitingRoom = .ok 3 t ∧ t.1.parked.length = 1 ∧
      t.2 = [⟨2, 0⟩, ⟨2, 0⟩, ⟨4, 0⟩] :=
  ⟨busy_desk_attended, TypeGraph.rooted_initial,
    retrying_takes_each_one_way busy_desk_attended waitingRoom TypeGraph.rooted_initial, _,
    eq_ok_of_value (by decide +kernel), by decide +kernel, by decide +kernel⟩

end BlueprintBridge.AssemblyHost.Site
