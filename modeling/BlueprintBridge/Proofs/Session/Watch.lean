import BlueprintBridge.Proofs.Session.Turns

/-!
# Watching a session

Each turn of a session is kept with the classes that were announced, in the graph the turn left,
and with the calls that the engine got. Where one bridge runs alone, what was announced since the
last collection of garbage is what waits, each blueprint where its last mention puts it; and a turn
compiles nothing, or everything that waits.
-/

namespace BlueprintBridge.Session

set_option autoImplicit false

structure Turn where
  /-- The graph that the turn left. -/
  graph : TypeGraph
  announced : List ClassRef
  calls : List EngineCall

def Turn.mentions (turn : Turn) : List Mention := turn.announced.map (Mention.mk turn.graph)

def Turn.still (said : List Mention) (turn : Turn) : List Mention :=
  if .collect ∈ turn.calls then [] else said ++ turn.mentions

def pending (turns : List Turn) : List Mention := turns.foldl Turn.still []

def turnOf (fuel : Nat) (w : World) (step : Step) : Turn :=
  ⟨(top fuel w step).2.host.graph, step.announced w, callsIn (top fuel w step).1.trace⟩

def watch (fuel : Nat) : World → List Step → List Turn × World
  | w, [] => ([], w)
  | w, step :: rest =>
    let (turns, last) := watch fuel (top fuel w step).2 rest
    (turnOf fuel w step :: turns, last)

def World.backlogOf (slot : Nat) (w : World) : Backlog :=
  (w.slots.get? slot).elim {} fun tenant => (w.station tenant.station).recompiler.backlog

variable {slot station fuel : Nat} {w : World} {step : Step} {setup : Setup}

theorem SoleBridge.backlog_of (sole : SoleBridge slot station w) :
    w.backlogOf slot = (w.drainState station).backlog := by
  obtain ⟨bridge, filled, same⟩ := sole.tenant
  rw [World.backlogOf, filled, ← same]
  rfl

def backlogFor (mentions : List Mention) : Backlog :=
  Backlog.putAll {} (mentions.filterMap Mention.order?)

theorem mem_backlog_for (mentions : List Mention) (lane : Lane) (blueprint : BlueprintRef) :
    blueprint ∈ ((backlogFor mentions).lane lane).entries ↔
      (lastMention? mentions blueprint).map Mention.lane = some lane := by
  rw [backlogFor, Backlog.mem_put_all, latest_orders]

theorem backlog_for_append (g : TypeGraph) (mentions : List Mention) (refs : List ClassRef) :
    (backlogFor mentions).putAll (Intake.ordersOf g refs) =
      backlogFor (mentions ++ refs.map (Mention.mk g)) := by
  rw [backlogFor, backlogFor, List.filterMap_append, Backlog.put_all_append, orders_of_mentions]

/-- The calls of a turn in which this waits at the end: none, or everything is compiled and then
garbage collected. -/
inductive Settled (waiting : Backlog) : List EngineCall → Backlog → Prop where
  | kept : Settled waiting [] waiting
  | drained (some : waiting ≠ {}) :
      Settled waiting (waiting.components.entries.map .compile ++
        waiting.classes.entries.map .compile ++ [.collect]) {}

theorem settled_trigger (loading : Bool) (waiting : Backlog) :
    Settled waiting (DrainState.trigger loading { backlog := waiting }).calls
      (DrainState.trigger loading { backlog := waiting }).backlog := by
  cases loading with
  | true => exact .kept
  | false =>
      by_cases none : waiting = {}
      · rw [DrainState.trigger_idle none]
        exact .kept
      · rw [DrainState.trigger_drains none]
        exact .drained none

theorem Settled.collect_iff {waiting after : Backlog} {calls : List EngineCall}
    (settled : Settled waiting calls after) :
    after = if .collect ∈ calls then {} else waiting := by
  cases settled with
  | kept => rfl
  | drained some => simp

theorem Settled.calls_of_drained {waiting after : Backlog} {calls : List EngineCall}
    (settled : Settled waiting calls after) (drained : .collect ∈ calls) :
    calls = waiting.components.entries.map .compile ++ waiting.classes.entries.map .compile ++
      [.collect] := by
  cases settled with
  | kept => cases drained
  | drained some => rfl

theorem top_of_ok {fuel : Nat} {reply : Reply} {t : World}
    (ran : perform (runScript fuel) fuel step { w with trace := [] } = .ok reply t) :
    top fuel w step = (⟨reply, t.trace, t.snapshot⟩, t) := by
  unfold top
  rw [ran]

/-- What is known of a session between turns: the bridge is the only one, and what waits there is
what was announced and not compiled since. -/
structure Kept (slot station : Nat) (said : List Mention) (w : World) : Prop where
  sole : SoleBridge slot station w
  backlog : (w.station station).recompiler.backlog = backlogFor said

/-- What a turn keeps, given what was announced before. -/
structure Turned (slot station : Nat) (said : List Mention) (turn : Turn) (w : World) : Prop where
  sole : SoleBridge slot station w
  settled : Settled (backlogFor (said ++ turn.mentions)) turn.calls
    (w.station station).recompiler.backlog

theorem Turned.kept {said : List Mention} {turn : Turn} (turned : Turned slot station said turn w) :
    Kept slot station (turn.still said) w := by
  refine ⟨turned.sole, ?_⟩
  rw [turned.settled.collect_iff, Turn.still]
  split <;> rfl

theorem SoleBridge.drain_state_before (sole : SoleBridge slot station w) :
    World.drainState station { w with trace := [] } = { backlog := w.backlogOf slot } := by
  rw [sole.backlog_of]
  rfl

theorem SoleBridge.work (sole : SoleBridge slot station w) (fuel : Nat)
    (works : step.isWork slot = true) :
    ∃ reply t loading, top (fuel + 2) w step = (⟨reply, t.trace, t.snapshot⟩, t) ∧
      SoleBridge slot station t ∧ t.host = (step.effect w.host).1 ∧
      t.drainState station = DrainState.trigger loading
        (DrainState.queueOwners t.host.graph (step.announced w)
          { backlog := w.backlogOf slot }) := by
  have fresh : SoleBridge slot station { w with trace := [] } := { sole with }
  rcases Step.work_cases works with outside | rfl
  · obtain ⟨reply, t, ran, worked⟩ := perform_outside fresh (run_nothing (fuel + 1)) fuel outside
    obtain ⟨loading, heard⟩ := step.hear_effect w.host { backlog := w.backlogOf slot }
    refine ⟨reply, t, loading, top_of_ok ran, worked.sole, worked.host, ?_⟩
    rw [worked.state, sole.drain_state_before, worked.host, Step.announced_outside outside]
    exact heard
  · obtain ⟨reply, t, ran, attends, host, state⟩ :=
      perform_trigger fresh (run_nothing (fuel + 1)) fuel
    refine ⟨reply, t, w.host.loads.isLoadingAny, top_of_ok ran, attends, host, ?_⟩
    rw [state, sole.drain_state_before]
    rfl

theorem Kept.backlog_of {said : List Mention} (kept : Kept slot station said w) :
    w.backlogOf slot = backlogFor said :=
  kept.sole.backlog_of.trans kept.backlog

theorem Kept.turn {said : List Mention} (kept : Kept slot station said w) (fuel : Nat)
    (works : step.isWork slot = true) :
    Turned slot station said (turnOf (fuel + 2) w step) (top (fuel + 2) w step).2 := by
  obtain ⟨reply, t, loading, ran, attends, _, state⟩ := kept.sole.work fuel works
  have settled : Settled (backlogFor (said ++ (step.announced w).map (Mention.mk t.host.graph)))
      (t.drainState station).calls (t.drainState station).backlog := by
    rw [state, kept.backlog_of, ← backlog_for_append]
    exact settled_trigger loading _
  unfold turnOf
  rw [ran]
  exact ⟨attends, settled⟩

theorem SoleBridge.graph_of_turn (sole : SoleBridge slot station w) (fuel : Nat)
    (works : step.isWork slot = true) :
    (turnOf (fuel + 2) w step).graph = (step.effect w.host).1.graph := by
  obtain ⟨reply, t, loading, ran, _, host, _⟩ := sole.work fuel works
  unfold turnOf
  rw [ran, ← host]

theorem VacantHost.turn (vacant : VacantHost setup.slot w)
    (started : (top (fuel + 2) w (.startup setup)).1.reply.isOutcome = true) :
    ∃ station, Turned setup.slot station [] (turnOf (fuel + 2) w (.startup setup))
      (top (fuel + 2) w (.startup setup)).2 ∧
      (turnOf (fuel + 2) w (.startup setup)).graph = w.host.graph := by
  have fresh : VacantHost setup.slot { w with trace := [] } := { vacant with }
  have ended : ∃ reply t, perform (runScript (fuel + 2)) (fuel + 2) (.startup setup)
      { w with trace := [] } = .ok reply t ∧ reply.isOutcome = true := by
    -- A start-up that is cut short answers with a failure, not with an outcome.
    unfold top at started
    cases ran : perform (runScript (fuel + 2)) (fuel + 2) (.startup setup)
        { w with trace := [] } with
    | ok reply t =>
        rw [ran] at started
        exact ⟨reply, t, rfl, started⟩
    | error interruption t =>
        rw [ran] at started
        cases interruption <;> cases started
  obtain ⟨reply, t, ran, outcome⟩ := ended
  obtain ⟨station, sole, graph, state⟩ :=
    perform_startup fresh (run_nothing (fuel + 1)) fuel outcome ran
  have settled : Settled (backlogFor ((setup.visited w.host.graph).map (Mention.mk t.host.graph)))
      (t.drainState station).calls (t.drainState station).backlog := by
    rw [state, graph, ← List.nil_append (List.map _ _), ← backlog_for_append]
    exact settled_trigger _ _
  refine ⟨station, ?_⟩
  unfold turnOf
  rw [top_of_ok ran]
  exact ⟨⟨sole, settled⟩, graph⟩

variable {said : List Mention} {steps : List Step}

theorem Kept.run (kept : Kept slot station said w)
    (works : ∀ step ∈ steps, step.isWork slot = true) :
    Kept slot station ((watch (fuel + 2) w steps).1.foldl Turn.still said)
      (watch (fuel + 2) w steps).2 := by
  -- The invariant is kept from turn to turn, whatever was said before.
  induction steps generalizing w said with
  | nil => exact kept
  | cons step rest ih =>
      have first := kept.turn fuel (works step (List.mem_cons_self ..))
      exact ih first.kept fun other member => works other (List.mem_cons_of_mem _ member)

theorem Kept.turn_of_run (kept : Kept slot station said w)
    (works : ∀ step ∈ steps, step.isWork slot = true) {before after : List Turn} {turn : Turn}
    (made : (watch (fuel + 2) w steps).1 = before ++ turn :: after) :
    ∃ t, Turned slot station (before.foldl Turn.still said) turn t := by
  induction steps generalizing w said before with
  | nil => simp [watch] at made
  | cons step rest ih =>
      have first := kept.turn fuel (works step (List.mem_cons_self ..))
      cases before with
      | nil =>
          cases made
          exact ⟨_, first⟩
      | cons head before =>
          obtain ⟨rfl, later⟩ := List.cons_eq_cons.mp made
          exact ih first.kept (fun other member => works other (List.mem_cons_of_mem _ member))
            later

/-- A session in which a bridge was started, and then worked with. -/
theorem VacantHost.run (vacant : VacantHost setup.slot w)
    (started : (top (fuel + 2) w (.startup setup)).1.reply.isOutcome = true)
    (works : ∀ step ∈ steps, step.isWork setup.slot = true) :
    ∃ station, Kept setup.slot station (pending (watch (fuel + 2) w (.startup setup :: steps)).1)
      (watch (fuel + 2) w (.startup setup :: steps)).2 := by
  obtain ⟨station, first, _⟩ := vacant.turn started
  exact ⟨station, first.kept.run works⟩

theorem VacantHost.turn_of_run (vacant : VacantHost setup.slot w)
    (started : (top (fuel + 2) w (.startup setup)).1.reply.isOutcome = true)
    (works : ∀ step ∈ steps, step.isWork setup.slot = true) {before after : List Turn} {turn : Turn}
    (made : (watch (fuel + 2) w (.startup setup :: steps)).1 = before ++ turn :: after) :
    ∃ station t, Turned setup.slot station (pending before) turn t := by
  obtain ⟨station, first, _⟩ := vacant.turn started
  cases before with
  | nil =>
      cases made
      exact ⟨station, _, first⟩
  | cons head before =>
      obtain ⟨rfl, later⟩ := List.cons_eq_cons.mp made
      exact ⟨station, first.kept.turn_of_run works later⟩

def plainSetup : Setup where
  slot := 0
  registry := 0
  throughRegistry := false
  settings := none

theorem vacant_initial (slot : Nat) : VacantHost slot {} where
  no_handlers kind := by cases kind <;> rfl
  free := rfl
  compile_quiet _ member := absurd member List.not_mem_nil
  collect_quiet _ member := absurd member List.not_mem_nil

end BlueprintBridge.Session
