import BlueprintBridge.Proofs.Session.Ownership
import BlueprintBridge.Proofs.Session.Listeners

/-!
# What is left of a start-up that was cut short

The hook stays in the registry, which then refuses every start-up. The station is abandoned: it is
in no slot and nobody holds it, so a handler of it that is called does nothing, and its recompiler
is never worked on again.
-/

namespace BlueprintBridge.Session

set_option autoImplicit false

variable {station : Nat} {recompiler : Recompiler}

theorem BridgeState.registry_register (e : BridgeState) (id other : Nat) (r : CompilerRegistry) :
    (e.register id r).registry other = if other = id then r else e.registry other := by
  simp only [registry, register, Catalog.get?_insert]
  split <;> rfl

def growth (id : Nat) (r : CompilerRegistry) : Invariant Unit where
  swap := .plain
  free _ := True
  callable _ := True
  holds _ e := r.Grown (e.registry id)
  interrupted _ e := r.Grown (e.registry id)
  withStarting _ _ _ := ()
  withHeld _ _ := ()

theorem growth_lawful (id : Nat) (r : CompilerRegistry) : (growth id r).Lawful where
  plain _ _ := rfl
  there _ _ _ _ swapped := (swapped rfl).elim
  fresh _ _ _ := trivial
  handlers_callable _ _ _ _ _ _ _ := trivial
  called _ _ _ _ _ _ := trivial
  worked _ _ grown _ _ _ := grown
  held _ _ grown _ _ := grown
  released _ _ _ grown _ := grown
  observed _ _ grown _ _ := grown
  unobserved _ _ grown _ _ _ _ := grown
  registered _ e grown other next later := by
    change r.Grown ((e.register other next).registry id)
    rw [e.registry_register]
    split
    · next same => exact grown.trans (same ▸ later)
    · exact grown
  stopped _ _ grown _ _ _ := grown
  vacated _ _ grown _ _ _ := grown
  opened _ _ grown _ _ := grown
  attached _ _ _ grown := grown
  placed _ _ _ grown _ _ := grown
  cut _ _ grown := grown
  unmarked _ _ grown _ _ _ := grown
  left _ _ _ grown _ := grown
  failed _ _ _ _ grown := grown

theorem growth_lasting (id : Nat) (r : CompilerRegistry) (station : Nat) :
    (growth id r).Lasting () station where
  lawful := growth_lawful id r
  interrupted_holds _ _ grown := grown
  permits _ w step _ := w.permits_all step
  may_call handler := by cases handler <;> trivial
  filled e slot _ _ grown := by
    unfold BridgeState.fill
    cases e.slots.get? slot <;> exact grown
  hold _ _ grown := grown
  work _ _ _ grown := grown
  letGo _ grown := grown
  elsewhere w t same grown := by
    change r.Grown ((t.registries.get? id).getD default)
    rw [same.registries]
    exact grown

/-- A station that is not being started, is in no slot, and is held by nobody. -/
structure Abandoned (station : Nat) (recompiler : Recompiler) (e : BridgeState) : Prop where
  old : station < e.nextStation
  unslotted : ∀ slot tenant, e.slots.get? slot = some tenant → tenant.station ≠ station
  unheld : (e.station station).holders = 0
  still : (e.station station).recompiler = recompiler

namespace Abandoned

variable {e : BridgeState} {id : Nat}

theorem set_station (abandoned : Abandoned station recompiler e) {s : Station}
    (other : id ≠ station) : Abandoned station recompiler (e.setStation id s) where
  old := abandoned.old
  unslotted := abandoned.unslotted
  unheld := by
    rw [BridgeState.station_set_station, if_neg other.symm]
    exact abandoned.unheld
  still := by
    rw [BridgeState.station_set_station, if_neg other.symm]
    exact abandoned.still

theorem let_go (abandoned : Abandoned station recompiler e) (id : Nat) :
    Abandoned station recompiler (e.letGo id) where
  old := abandoned.old
  unslotted := abandoned.unslotted
  unheld := by
    rw [e.holders_let_go, abandoned.unheld, Nat.zero_sub]
  still := by
    rw [BridgeState.letGo, BridgeState.station_set_station]
    split
    · next own => exact own ▸ abandoned.still
    · exact abandoned.still

theorem reslotted (abandoned : Abandoned station recompiler e) {slots : Catalog Nat Tenant}
    (known : ∀ slot tenant, slots.get? slot = some tenant → tenant.station ≠ station) :
    Abandoned station recompiler { e with slots } :=
  { abandoned with unslotted := known }

theorem placed (abandoned : Abandoned station recompiler e) {tenant : Tenant}
    (other : tenant.station ≠ station) (slot : Nat) :
    Abandoned station recompiler (e.place slot tenant) := by
  refine abandoned.reslotted fun there neighbour found => ?_
  rw [Catalog.get?_insert] at found
  split at found
  · cases found
    exact other
  · exact abandoned.unslotted there neighbour found

theorem vacated (abandoned : Abandoned station recompiler e) (slot : Nat) (tenant : Tenant) :
    Abandoned station recompiler (e.vacate slot tenant) := by
  have detached : Abandoned station recompiler (e.detach tenant.attachment) := { abandoned with }
  refine (detached.reslotted fun there neighbour found => ?_).let_go _
  rw [Catalog.get?_erase] at found
  split at found
  · cases found
  · exact abandoned.unslotted there neighbour found

theorem filled (abandoned : Abandoned station recompiler e) {tenant : Tenant}
    (other : tenant.station ≠ station) (slot : Nat) :
    Abandoned station recompiler (e.fill slot tenant) := by
  unfold BridgeState.fill
  cases e.slots.get? slot with
  | none => exact abandoned.placed other slot
  | some before => exact (abandoned.vacated slot before).placed other slot

end Abandoned

def abandonment (station : Nat) (recompiler : Recompiler) : Invariant (List Nat) where
  swap := .plain
  free id := id ≠ station
  callable _ := True
  holds starting e := station ∉ starting ∧ Abandoned station recompiler e
  interrupted starting e := station ∉ starting ∧ Abandoned station recompiler e
  withStarting starting id _ := id :: starting
  withHeld starting _ := starting

theorem abandonment_lawful (station : Nat) (recompiler : Recompiler) :
    (abandonment station recompiler).Lawful where
  plain _ _ := rfl
  there _ _ _ _ swapped := (swapped rfl).elim
  fresh _ _ held := (Nat.ne_of_lt held.2.old).symm
  handlers_callable _ _ _ _ _ _ _ := trivial
  called _ _ held id _ awake own := awake (own ▸ held.2.unheld)
  worked _ _ held _ free _ := ⟨held.1, held.2.set_station free⟩
  held _ _ held _ free := ⟨held.1, held.2.set_station free⟩
  released _ _ id held _ := ⟨held.1, held.2.let_go id⟩
  observed _ _ held _ _ := ⟨held.1, { held.2 with }⟩
  unobserved _ _ held _ _ _ _ := ⟨held.1, { held.2 with }⟩
  registered _ _ held _ _ _ := ⟨held.1, { held.2 with }⟩
  stopped _ e held slot b found := by
    have detached : Abandoned station recompiler (e.detach b.attachment) := { held.2 with }
    let stopped : Tenant := .bridge { b with attachment := {} }
    have other : stopped.station ≠ station := held.2.unslotted slot (.bridge b) found
    exact ⟨held.1, detached.placed other slot⟩
  vacated _ _ held slot tenant _ := ⟨held.1, held.2.vacated slot tenant⟩
  opened _ _ held s _ := by
    have young := (Nat.ne_of_lt held.2.old).symm
    refine ⟨fun member => ?_, { held.2.set_station (s := s) young with
      old := Nat.lt_succ_of_lt held.2.old }⟩
    rcases List.mem_cons.mp member with own | earlier
    · exact young own.symm
    · exact held.1 earlier
  attached _ _ _ held := ⟨held.1, { held.2 with }⟩
  placed starting e tenant held slot _ := by
    have other : tenant.station ≠ station :=
      fun own => held.1 (own ▸ List.mem_cons_self ..)
    exact ⟨fun member => held.1 (List.mem_cons_of_mem _ member), held.2.placed other slot⟩
  cut _ _ held := held
  unmarked _ _ held _ free _ := ⟨held.1, held.2.set_station free⟩
  left _ _ id held _ := ⟨held.1, held.2.let_go id⟩
  failed _ _ id _ held :=
    ⟨fun member => held.1 (List.mem_cons_of_mem _ member), held.2.let_go id⟩

theorem abandonment_lasting (station : Nat) (recompiler : Recompiler) :
    (abandonment station recompiler).Lasting [] station where
  lawful := abandonment_lawful station recompiler
  interrupted_holds _ _ held := held
  permits _ _ _ held slot _ tenant _ _ found := held.2.unslotted slot tenant found
  may_call handler := by cases handler <;> trivial
  filled _ slot _ other held := ⟨held.1, held.2.filled other slot⟩
  hold _ shared held := (shared held.2.unheld).elim
  work _ _ shared held := (shared held.2.unheld).elim
  letGo _ held := ⟨held.1, held.2.let_go station⟩
  elsewhere w t same held := {
    left := held.1
    right := {
      old := by
        change station < t.nextStation
        rw [same.nextStation]
        exact held.2.old
      unslotted := by
        change ∀ slot tenant, t.slots.get? slot = some tenant → tenant.station ≠ station
        rw [same.slots]
        exact held.2.unslotted
      unheld := by
        change ((t.stations.get? station).getD default).holders = 0
        rw [same.station]
        exact held.2.unheld
      still := by
        change ((t.stations.get? station).getD default).recompiler = recompiler
        rw [same.station]
        exact held.2.still } }

section

variable {run : Script → Act Unit} {fuel : Nat} {setup : Setup} {w v : World}
  {interruption : Interruption}

/-- How a start-up comes to be cut short: the hook is installed and a station opened, and then the
bridge is not brought up. -/
structure Aborted (run : Script → Act Unit) (fuel : Nat) (setup : Setup) (w v : World)
    (interruption : Interruption) (hooked : CompilerRegistry) : Prop where
  hook : (w.registry setup.registry).installHook = .ok hooked
  halted : ∃ settings s t u, s.holders = 1 ∧
    t.bridgeState = (w.bridgeState.register setup.registry hooked).openStation s ∧
    bringUp run fuel setup w.nextStation settings t = .error interruption u ∧
    v = u.letGo w.nextStation

theorem startup_aborted (ran : performStartup run fuel setup w = .error interruption v) :
    ∃ hooked, Aborted run fuel setup w v interruption hooked := by
  cases given : setup.settings? with
  | none =>
      rw [startup_invalid given] at ran
      cases ran
  | some settings =>
      cases hook : (w.registry setup.registry).installHook with
      | error refusal =>
          rw [startup_refused given hook] at ran
          cases ran
      | ok hooked =>
          refine ⟨hooked, hook, settings, ?_⟩
          let x := (w.setRegistry setup.registry hooked).note CompilerRegistry.hookRecord
          have same : x.bridgeState = w.bridgeState.register setup.registry hooked :=
              World.bridge_state_note ..
          have number : x.nextStation = w.nextStation := congrArg BridgeState.nextStation same
          obtain ⟨s, one, t, opens, _, opened⟩ :=
            new_station_goes (g := .plain) setup settings x rfl
          rw [number] at opens
          refine ⟨s, t, ?_⟩
          unfold performStartup at ran
          rw [Action.bind_of_ok (getting w), given, hook] at ran
          have hooking : change (fun w => (w.setRegistry setup.registry hooked).note
            CompilerRegistry.hookRecord) w = .ok () x := rfl
          dsimp only at ran
          rw [Action.bind_of_ok hooking, Action.bind_of_ok opens] at ran
          rcases Action.bind_eq_error.mp ran with cut | ⟨bridge, u, _, rest⟩
          · obtain ⟨u, brought, left⟩ := Action.on_interrupt_eq_error.mp cut
            exact ⟨u, one, opened.trans (congrArg (BridgeState.openStation · s) same),
              brought, left⟩
          · -- A bridge that was brought up takes its slot, however that ends.
            obtain ⟨last, fills, _⟩ := fill_slot_goes (g := .plain) setup.slot (.bridge bridge)
              fun _ _ swapped => (swapped rfl).elim
            rw [Action.bind_of_ok fills] at rest
            cases rest

end

structure Remains (setup : Setup) (hooked : CompilerRegistry) (station : Nat)
    (recompiler : Recompiler) (u : World) : Prop where
  hook : hooked.Grown (u.registry setup.registry)
  refused : ∀ again : Setup, again.registry = setup.registry → again.settings?.isSome = true →
    ∀ depth fuel, perform (runScript depth) fuel (.startup again) u =
      .ok (.failed (.registry (.factoryTaken .managed))) u
  abandoned : Abandoned station recompiler u.bridgeState
  handler_idle : ∀ depth fuel news,
    callHandler (runScript depth) fuel news (.intake station) u = .ok () u

/-- A start-up that is cut short leaves the hook in its registry, and an abandoned station. -/
def LeavesHookBehind (w : World) (step : Step) : Prop :=
  ∀ setup depth fuel interruption v, step = .startup setup →
    perform (runScript depth) fuel step w = .error interruption v →
    ∃ hooked, (w.registry setup.registry).installHook = .ok hooked ∧
      ∀ u, Later w.nextStation v u →
        Remains setup hooked w.nextStation (v.station w.nextStation).recompiler u

/-- Where a start-up ends that was cut short, its station is abandoned. -/
theorem Ownership.abandoned {c : OngoingWork} {e : BridgeState} {a : Attachment}
    (ownership : Ownership (c.start station a) e) :
    Abandoned station ((e.letGo station).station station).recompiler (e.letGo station) where
  old := ownership.numbered _ (List.mem_cons_self ..)
  unslotted slot tenant found :=
    (ownership.unslotted slot tenant found _ (List.mem_cons_self ..)).symm
  unheld := by
    have counted := ownership.counted (station, a) (List.mem_cons_self ..)
    rw [c.working_start_self] at counted
    rw [e.holders_let_go, counted, if_pos rfl]
  still := rfl

theorem remains_of_abandoned {setup : Setup} {hooked : CompilerRegistry} {u : World}
    (taken : hooked.hasFactory .managed = true) (grown : hooked.Grown (u.registry setup.registry))
    (abandoned : Abandoned station recompiler u.bridgeState) :
    Remains setup hooked station recompiler u where
  hook := grown
  refused again same valid depth fuel := by
    obtain ⟨settings, given⟩ := Option.isSome_iff_exists.mp valid
    apply startup_refused given
    rw [same]
    exact CompilerRegistry.install_hook_of_taken (grown.has_factory taken)
  abandoned := abandoned
  handler_idle depth fuel news := by
    have unheld : (u.station station).holders = 0 := abandoned.unheld
    have asks : callHandler (runScript depth) fuel news (.intake station) u =
      (if (u.station station).holders = 0 then Pure.pure () else
        holding station (react (runScript depth) fuel station news) : Act Unit) u := rfl
    rw [asks, if_pos unheld]
    rfl

/-- In every run, a start-up that is cut short leaves the hook in its registry and its station
abandoned. -/
theorem cut_short_startup_leaves_hook : Throughout LeavesHookBehind := by
  apply throughout_of_ownership
  intro c w step held setup depth fuel interruption v starts ran
  subst starts
  obtain ⟨hooked, hook, settings, s, t, u, one, opened, brought, left⟩ := startup_aborted ran
  -- Callbacks of the drain may have registered more; they took nothing away.
  have grown : hooked.Grown (v.registry setup.registry) := by
    have lawful := growth_lawful setup.registry hooked
    have runs := lawful.run_script (fun _ w step _ => w.permits_all step) depth
    have begun : hooked.Grown (t.bridgeState.registry setup.registry) := by
      rw [opened]
      exact (BridgeState.registry_register ..).trans (if_pos rfl) ▸ .refl hooked
    obtain ⟨_, grown⟩ :=
      (lawful.bring_up (i := ()) runs setup settings trivial).lost begun brought
    rw [left]
    exact grown
  have abandoned : Abandoned w.nextStation (v.station w.nextStation).recompiler v.bridgeState := by
    have runs := ownership_lawful.run_script (fun _ w step _ => w.permits_all step) depth
    have begun : Ownership (c.start w.nextStation {}) t.bridgeState := by
      rw [opened]
      exact Ownership.opened (e := w.bridgeState.register setup.registry hooked)
        { held with } one
    obtain ⟨_, ownership⟩ :=
      (ownership_lawful.bring_up runs setup settings trivial).lost begun brought
    rw [left]
    exact ownership.abandoned
  refine ⟨hooked, hook, fun world later => ?_⟩
  apply remains_of_abandoned (CompilerRegistry.has_factory_of_hook hook)
  · exact (growth_lasting setup.registry hooked w.nextStation).later grown later
  · have kept := (abandonment_lasting _ _).later ⟨List.not_mem_nil, abandoned⟩ later
    exact kept.2

def unluckyDoor : List Step :=
  [.edit (.ensurePackage "/Script/Game"), .edit (.createBlueprint ⟨0, 0⟩ "BP_Door"),
    .host (.defineClass { name := ⟨"Game", "", "Door"⟩, blueprint := some ⟨0, 0⟩ }),
    .scriptCompile ⟨0, 0⟩ [("boom", .raise "boom")] []]

/-- The start-up leaves a handler on each channel, and the hook: another start-up is refused. -/
theorem unwound_startup_not_undone :
    let setup : Setup := ⟨0, 0, false, none⟩
    let before := (topAll 9 {} unluckyDoor).2
    let cut := top 9 before (.startup setup)
    let subscribers (w : World) :=
      EventKind.all.map fun kind => (w.host.channels.get kind).subscriberCount
    cut.1.reply.isCutShort = true ∧
      subscribers before = [0, 0, 0, 0, 0] ∧ subscribers cut.2 = [1, 1, 1, 1, 1] ∧
      (before.registry 0).hasFactory .managed = false ∧
      (cut.2.registry 0).hasFactory .managed = true ∧
      ∃ error, (top 9 cut.2 (.startup setup)).1.reply = .failed (.registry error) := by
  refine ⟨by decide +kernel, by decide +kernel, by decide +kernel, by decide +kernel,
    by decide +kernel, ?_⟩
  exact (top_startup _ _).refused_iff.mpr ⟨by decide +kernel, by decide +kernel⟩

end BlueprintBridge.Session
