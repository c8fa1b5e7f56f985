import BlueprintBridge.Proofs.Alike
import BlueprintBridge.Proofs.Catalog
import BlueprintBridge.Proofs.Session.Station

/-!
# The bridge state of a session, and other engines behind its stations

Handlers, slots, stations and registries make up the bridge state of a session; few acts change it.
The engine behind a station shows in a run only where the station is worked on: an act that leaves a
station alone goes the same way whatever engine is put behind it.
-/

namespace BlueprintBridge.Session

set_option autoImplicit false

variable {α β : Type}

/-- Who listens, under which number and token, who is in which slot, and what there is of stations
and registries. -/
structure BridgeState where
  channels : Channels Handler
  nextSubscriber : Nat
  tokens : Catalog (EventKind × String) Token
  slots : Catalog Nat Tenant
  nextStation : Nat
  stations : Catalog Nat Station
  registries : Catalog Nat CompilerRegistry

def World.bridgeState (w : World) : BridgeState :=
  ⟨w.host.channels, w.nextSubscriber, w.tokens, w.slots, w.nextStation, w.stations, w.registries⟩

namespace BridgeState

def station (e : BridgeState) (id : Nat) : Station := (e.stations.get? id).getD default

def registry (e : BridgeState) (id : Nat) : CompilerRegistry := (e.registries.get? id).getD default

def setStation (e : BridgeState) (id : Nat) (s : Station) : BridgeState :=
  { e with stations := e.stations.insert id s }

def setRecompiler (e : BridgeState) (id : Nat) (recompiler : Recompiler) : BridgeState :=
  e.setStation id { e.station id with recompiler }

def hold (e : BridgeState) (id : Nat) : BridgeState :=
  e.setStation id { e.station id with holders := (e.station id).holders + 1 }

def letGo (e : BridgeState) (id : Nat) : BridgeState :=
  e.setStation id { e.station id with holders := (e.station id).holders - 1 }

theorem station_set_station (e : BridgeState) (id other : Nat) (s : Station) :
    (e.setStation id s).station other = if other = id then s else e.station other := by
  simp only [station, setStation, Catalog.get?_insert]
  split <;> rfl

theorem holders_hold (e : BridgeState) (id other : Nat) :
    ((e.hold id).station other).holders =
      (e.station other).holders + if other = id then 1 else 0 := by
  rw [hold, station_set_station]
  split
  · next same => rw [same]
  · rfl

theorem holders_let_go (e : BridgeState) (id other : Nat) :
    ((e.letGo id).station other).holders =
      (e.station other).holders - if other = id then 1 else 0 := by
  rw [letGo, station_set_station]
  split
  · next same => rw [same]
  · rfl

def Has (e : BridgeState) (id : Nat) : Prop := (e.stations.get? id).isSome = true

theorem Has.set_station {e : BridgeState} {id : Nat} (has : e.Has id) (other : Nat) (s : Station) :
    (e.setStation other s).Has id := by
  unfold Has setStation
  rw [Catalog.get?_insert]
  split
  · rfl
  · exact has

end BridgeState

namespace World

@[simp] theorem bridge_state_notes (w : World) (records : List Record) :
    (w.notes records).bridgeState = w.bridgeState := by
  induction records generalizing w with
  | nil => rfl
  | cons record rest ih =>
      refine (ih (w.note record)).trans ?_
      unfold note
      split <;> rfl

@[simp] theorem bridge_state_note (w : World) (record : Record) :
    (w.note record).bridgeState = w.bridgeState :=
  w.bridge_state_notes [record]

theorem bridge_state_show_handles (w : World) (effects : List HandleEffect) :
    (effects.foldl showHandle w).bridgeState = w.bridgeState := by
  induction effects generalizing w with
  | nil => rfl
  | cons effect rest ih =>
      refine (ih (w.showHandle effect)).trans ?_
      unfold showHandle
      split
      · exact bridge_state_note ..
      · rfl
      · rfl

theorem bridge_state_show_context (w : World) (context : CompileContext)
    (options : CompileOptions) :
    (showContext context options w).bridgeState = w.bridgeState := by
  unfold showContext
  split <;> rfl

end World

/-- The stations behind which another engine is put: the one of the station given. -/
abbrev EngineSwap := Nat → Option Station

def EngineSwap.plain : EngineSwap := fun _ => none

def EngineSwap.at (id : Nat) (other : Station) : EngineSwap :=
  fun key => if key = id then some other else none

def EngineSwap.apply (g : EngineSwap) (id : Nat) (s : Station) : Station :=
  match g id with
  | none => s
  | some other => { s with slot := other.slot, registry := other.registry }

theorem EngineSwap.apply_counted (g : EngineSwap) (id : Nat) (s : Station) (f : Nat → Nat) :
    { g.apply id s with holders := f (g.apply id s).holders } =
      g.apply id { s with holders := f s.holders } := by
  unfold apply
  split <;> rfl

theorem EngineSwap.recompiler_apply (g : EngineSwap) (id : Nat) (s : Station) :
    (g.apply id s).recompiler = s.recompiler := by
  unfold apply
  split <;> rfl

theorem EngineSwap.holders_apply (g : EngineSwap) (id : Nat) (s : Station) :
    (g.apply id s).holders = s.holders := by
  unfold apply
  split <;> rfl

theorem EngineSwap.apply_of_plain {g : EngineSwap} {id : Nat} (plain : g id = none) (s : Station) :
    g.apply id s = s := by
  unfold apply
  rw [plain]

def World.withEngines (g : EngineSwap) (w : World) : World :=
  { w with stations := w.stations.mapValues g.apply }

namespace World

variable {g : EngineSwap} {id : Nat}

theorem with_engines_plain (w : World) : w.withEngines .plain = w :=
  congrArg (fun stations => { w with stations }) w.stations.map_values_id

theorem get?_with_engines (w : World) (id : Nat) :
    (w.withEngines g).stations.get? id = (w.stations.get? id).map (g.apply id) :=
  Catalog.get?_map_values ..

@[simp] theorem recompiler_with_engines (w : World) (id : Nat) :
    ((w.withEngines g).station id).recompiler = (w.station id).recompiler := by
  unfold station
  rw [get?_with_engines]
  cases w.stations.get? id with
  | none => rfl
  | some s => exact g.recompiler_apply id s

@[simp] theorem holders_with_engines (w : World) (id : Nat) :
    ((w.withEngines g).station id).holders = (w.station id).holders := by
  unfold station
  rw [get?_with_engines]
  cases w.stations.get? id with
  | none => rfl
  | some s => exact g.holders_apply id s

theorem station_with_engines (w : World) (there : g id ≠ none → w.bridgeState.Has id) :
    (w.withEngines g).station id = g.apply id (w.station id) := by
  unfold station
  rw [get?_with_engines]
  cases found : w.stations.get? id with
  | some s => rfl
  | none =>
      have plain : g id = none := by
        by_contra swapped
        have has : (w.stations.get? id).isSome = true := there swapped
        rw [found] at has
        cases has
      exact (g.apply_of_plain plain _).symm

theorem station_with_engines_plain (w : World) (plain : g id = none) :
    (w.withEngines g).station id = w.station id := by
  rw [w.station_with_engines fun swapped => (swapped plain).elim, g.apply_of_plain plain]

theorem set_station_with_engines (w : World) (id : Nat) (s : Station) :
    (w.withEngines g).setStation id (g.apply id s) = (w.setStation id s).withEngines g :=
  congrArg (fun stations => { w with stations }) (w.stations.map_values_insert g.apply id s).symm

theorem set_station_with_engines_plain (w : World) (plain : g id = none) (s : Station) :
    (w.withEngines g).setStation id s = (w.setStation id s).withEngines g := by
  rw [← set_station_with_engines, g.apply_of_plain plain]

theorem hold_with_engines (w : World) (plain : g id = none) :
    (w.withEngines g).hold id = (w.hold id).withEngines g := by
  unfold hold
  rw [station_with_engines_plain w plain]
  exact w.set_station_with_engines_plain plain _

theorem let_go_with_engines (w : World) (there : g id ≠ none → w.bridgeState.Has id) :
    (w.withEngines g).letGo id = (w.letGo id).withEngines g := by
  simp only [letGo, w.station_with_engines there]
  rw [g.apply_counted id (w.station id) (· - 1)]
  exact w.set_station_with_engines id _

theorem note_with_engines (w : World) (record : Record) :
    (w.withEngines g).note record = (w.note record).withEngines g :=
  (apply_ite (World.withEngines g) (record.isKept w.verbosity = true) (w.emit (.log record)) w).symm

theorem notes_with_engines (w : World) (records : List Record) :
    (w.withEngines g).notes records = (w.notes records).withEngines g := by
  induction records generalizing w with
  | nil => rfl
  | cons record rest ih =>
      refine Eq.trans ?_ (ih (w.note record))
      exact congrArg (fun t : World => t.notes rest) (w.note_with_engines record)

theorem show_handle_with_engines (w : World) (effect : HandleEffect) :
    (w.withEngines g).showHandle effect = (w.showHandle effect).withEngines g := by
  unfold showHandle
  split
  · exact note_with_engines ..
  · rfl
  · rfl

theorem show_handles_with_engines (w : World) (effects : List HandleEffect) :
    effects.foldl showHandle (w.withEngines g) = (effects.foldl showHandle w).withEngines g := by
  induction effects generalizing w with
  | nil => rfl
  | cons effect rest ih =>
      rw [List.foldl_cons, List.foldl_cons, show_handle_with_engines]
      exact ih _

theorem show_context_with_engines (w : World) (context : CompileContext)
    (options : CompileOptions) :
    showContext context options (w.withEngines g) =
      (showContext context options w).withEngines g := by
  unfold showContext
  split <;> rfl

theorem snapshot_with_engines (w : World) : (w.withEngines g).snapshot = w.snapshot := by
  simp only [snapshot, recompiler_with_engines]
  rfl

theorem answer_with_engines (w : World) (query : Query) :
    (w.withEngines g).answer query = w.answer query := by
  cases query with
  | snapshot => exact congrArg Reply.snapshot w.snapshot_with_engines
  | _ => rfl

theorem answer_slot_with_engines (w : World) (tenant : Tenant) (query : SlotQuery) :
    answerSlot (w.withEngines g) tenant query = answerSlot w tenant query := by
  unfold answerSlot
  rw [recompiler_with_engines]
  rfl

end World

theorem map_state_id (result : EStateM.Result Interruption World α) :
    Action.mapState (World.withEngines .plain) result = result := by
  cases result with
  | ok value t => exact congrArg (EStateM.Result.ok value) t.with_engines_plain
  | error interruption t => exact congrArg (EStateM.Result.error interruption) t.with_engines_plain

def Goes (g : EngineSwap) (act : Act α) (w : World) (value : α) (e : BridgeState) : Prop :=
  ∃ t, act w = .ok value t ∧ act (w.withEngines g) = .ok value (t.withEngines g) ∧ t.bridgeState = e

def Apart (g : EngineSwap) (act : Act α) : Prop := ∀ w, ∃ value, Goes g act w value w.bridgeState

/-- Two acts go alike where a property of the bridge state holds, and keep it if they come back;
where they are cut short another one holds. -/
abbrev Together (g : EngineSwap) (P E : BridgeState → Prop) (first second : Act α) : Prop :=
  Action.Match (World.withEngines g) (fun w => P w.bridgeState)
    (fun w => E w.bridgeState) first second

variable {g : EngineSwap} {P E : BridgeState → Prop}

theorem Goes.bind {first : Act α} {next : α → Act β} {w : World} {value : α} {answer : β}
    {e after : BridgeState} (before : Goes g first w value e)
    (rest : ∀ t, t.bridgeState = e → Goes g (next value) t answer after) :
    Goes g (first >>= next) w answer after := by
  obtain ⟨t, comes, follows, same⟩ := before
  obtain ⟨u, ends, ended, left⟩ := rest t same
  exact ⟨u, (Action.bind_of_ok comes).trans ends, (Action.bind_of_ok follows).trans ended, left⟩

theorem Goes.change {f : World → World} {w : World}
    (follows : f (w.withEngines g) = (f w).withEngines g) :
    Goes g (Session.change f) w () (f w).bridgeState :=
  ⟨f w, rfl, congrArg _ follows, rfl⟩

theorem Goes.here {Q : α → BridgeState → Prop} {E : World → Prop} {act : Act α} {w : World}
    {value : α} {e : BridgeState} (goes : Goes g act w value e) (kept : Q value e) :
    Action.Alike (World.withEngines g) (fun t => t = w)
      (fun value t => Q value t.bridgeState) E act act := by
  intro t same
  subst same
  obtain ⟨u, comes, follows, rfl⟩ := goes
  rw [comes]
  exact ⟨follows, kept⟩

theorem Goes.alike {Q : α → BridgeState → Prop} {E : World → Prop} {act : Act α}
    (goes : ∀ w, P w.bridgeState → ∃ value e, Goes g act w value e ∧ Q value e) :
    Action.Alike (World.withEngines g) (fun w => P w.bridgeState)
      (fun value w => Q value w.bridgeState) E
      act act := by
  intro w held
  obtain ⟨value, e, comes, kept⟩ := goes w held
  exact comes.here kept w rfl

theorem Apart.together {act : Act α} (apart : Apart g act) : Together g P E act act :=
  Goes.alike (Q := fun _ => P) fun w held => by
    obtain ⟨value, goes⟩ := apart w
    exact ⟨value, w.bridgeState, goes, held⟩

theorem Together.look_here {Q : β → World → Prop} {E : World → Prop} {w : World}
    {first second : World → Act β} (after : Action.Alike (World.withEngines g) (fun t => t = w) Q E
      (first w) (second (w.withEngines g))) :
    Action.Alike (World.withEngines g) (fun t => t = w) Q E (get >>= first) (get >>= second) := by
  intro t same
  subst same
  rw [Action.bind_of_ok (getting t), Action.bind_of_ok (getting (t.withEngines g))]
  exact after t rfl

theorem Together.look {Q : β → World → Prop} {E : World → Prop} {first second : World → Act β}
    (after : ∀ w, P w.bridgeState →
      Action.Alike (World.withEngines g) (fun t => t = w) Q E (first w)
        (second (w.withEngines g))) :
    Action.Alike (World.withEngines g) (fun w => P w.bridgeState) Q E (get >>= first)
      (get >>= second) :=
  fun w held => Together.look_here (after w held) w rfl

theorem Together.from_here {Q : β → World → Prop} {E : World → Prop} {first second : Act β}
    {w : World} (held : P w.bridgeState)
    (alike : Action.Alike (World.withEngines g) (fun w => P w.bridgeState) Q E first second) :
    Action.Alike (World.withEngines g) (fun t => t = w) Q E first second := by
  intro t same
  subst same
  exact alike t held

namespace Apart

theorem change {f : World → World} (follows : ∀ w, f (w.withEngines g) = (f w).withEngines g)
    (same : ∀ w, (f w).bridgeState = w.bridgeState) : Apart g (change f) :=
  fun w => ⟨(), f w, rfl, congrArg _ (follows w), same w⟩

theorem emit (entry : TraceEntry) : Apart g (Session.change (·.emit entry)) :=
  change (fun _ => rfl) (fun _ => rfl)

theorem note (record : Record) : Apart g (Session.change (·.note record)) :=
  change (fun w => w.note_with_engines record) (fun w => w.bridge_state_note record)

theorem reply {act : Act α} (apart : Apart g act) (f : α → β) :
    Apart g (do return f (← act)) := by
  intro w
  obtain ⟨value, t, comes, follows, same⟩ := apart w
  exact ⟨f value, t, Action.bind_of_ok comes, Action.bind_of_ok follows, same⟩

theorem next_observer_script (id : Nat) : Apart g (nextObserverScript id) := by
  intro w
  have seen : (w.withEngines g).observerScripts = w.observerScripts := rfl
  unfold Goes nextObserverScript
  rw [seen]
  split
  · exact ⟨_, _, rfl, rfl, rfl⟩
  · exact ⟨[], w, rfl, rfl, rfl⟩

theorem next_compile_script (blueprint : BlueprintRef) :
    Apart g (nextCompileScript blueprint) := by
  intro w
  have seen : (w.withEngines g).compileScripts = w.compileScripts := rfl
  unfold Goes nextCompileScript
  rw [seen]
  split
  · exact ⟨_, _, rfl, rfl, rfl⟩
  · exact ⟨none, w, rfl, rfl, rfl⟩

theorem next_collect_script : Apart g nextCollectScript := by
  intro w
  have seen : (w.withEngines g).collectScripts = w.collectScripts := rfl
  unfold Goes nextCollectScript
  rw [seen]
  split
  · exact ⟨_, _, rfl, rfl, rfl⟩
  · exact ⟨[], w, rfl, rfl, rfl⟩

theorem compile_through (registry : Nat) (blueprint : BlueprintRef) (options : CompileOptions) :
    Apart g (compileThrough registry blueprint options) := by
  intro w
  have seen : (w.withEngines g).registry registry = w.registry registry := rfl
  have graph : (w.withEngines g).host = w.host := rfl
  unfold Goes compileThrough
  rw [seen, graph]
  dsimp only
  split
  · exact ⟨_, w, rfl, rfl, rfl⟩
  · next context _ =>
      refine ⟨_, _, rfl, ?_,
        (World.bridge_state_note ..).trans (w.bridge_state_show_context context options)⟩
      rw [w.show_context_with_engines, World.note_with_engines]

theorem layout_step (step : LayoutStep) : Apart g (performLayout step) := by
  intro w
  have seen : (w.withEngines g).layouts = w.layouts := rfl
  cases step with
  | register ref layout =>
      unfold Goes performLayout
      dsimp only
      rw [seen]
      split
      · exact ⟨_, w, rfl, rfl, rfl⟩
      · exact ⟨_, _, rfl, rfl, rfl⟩
  | remove ref => exact ⟨_, _, rfl, rfl, rfl⟩

theorem with_callbacks (f : RuntimeCallbacks → Bool × List HandleEffect) :
    Apart g (withCallbacks f) := by
  intro w
  have seen : (w.withEngines g).bindings = w.bindings := rfl
  unfold Goes withCallbacks
  rw [seen]
  split
  · exact ⟨_, w, rfl, rfl, rfl⟩
  · exact ⟨_, _, rfl, congrArg _ (World.show_handles_with_engines ..),
      World.bridge_state_show_handles ..⟩

theorem look_up {χ : Type} (answer : χ → Reply) {found : World → Logged χ}
    (same : ∀ w, found (w.withEngines g) = found w) : Apart g (lookUp answer found) := by
  intro w
  refine ⟨_, _, rfl, ?_, World.bridge_state_notes ..⟩
  unfold lookUp
  rw [same]
  exact congrArg _ (World.notes_with_engines ..)

theorem export_step (step : ExportStep) : Apart g (performExport step) := by
  cases step with
  | findClass | findStruct | lookUpClass | lookUpStruct => exact look_up _ fun _ => rfl
  | release | disposeObject =>
      unfold performExport
      exact with_callbacks _
  | install bindings =>
      intro w
      have seen : (w.withEngines g).bindings = w.bindings := rfl
      unfold Goes performExport
      dsimp only
      rw [seen]
      split
      · exact ⟨_, w, rfl, rfl, rfl⟩
      · next installed _ =>
          refine ⟨_, _, rfl, ?_, World.bridge_state_note ..⟩
          exact congrArg _ (World.note_with_engines { w with bindings := some installed } _)

end Apart

end BlueprintBridge.Session
