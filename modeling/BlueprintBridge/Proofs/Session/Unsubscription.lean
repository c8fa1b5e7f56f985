import BlueprintBridge.Proofs.Session.Ownership

/-!
# A bridge that is shut down stays unsubscribed

No channel has a handler of a bridge that was shut down, and none gets one again. From then on its
recompiler changes, and its engine is asked for something, only when a broadcast that was under way
still reaches a handler of the bridge, or when somebody works on the recompiler directly.
-/

namespace BlueprintBridge.Session

set_option autoImplicit false

variable {station : Nat} {w t : World}

/-- A station that is not being started, and of which no channel has a handler. Where it is sealed
its recompiler is known as well. -/
structure Unsubscribed (station : Nat) (sealed : Option Recompiler) (e : BridgeState) : Prop where
  old : station < e.nextStation
  present : e.Has station
  no_handlers : ∀ kind number, ¬ e.Feeds kind number station
  still : ∀ r ∈ sealed, (e.station station).recompiler = r

namespace Unsubscribed

variable {sealed : Option Recompiler} {e : BridgeState} {id : Nat}

theorem set_station (unsubscribed : Unsubscribed station sealed e) {s : Station}
    (same : id = station → ∀ r ∈ sealed, s.recompiler = r) :
    Unsubscribed station sealed (e.setStation id s) where
  old := unsubscribed.old
  present := unsubscribed.present.set_station id s
  no_handlers := unsubscribed.no_handlers
  still r known := by
    rw [BridgeState.station_set_station]
    split
    · next own => exact same own.symm r known
    · exact unsubscribed.still r known

theorem rechannelled (unsubscribed : Unsubscribed station sealed e) {channels : Channels Handler}
    (spares : e.Spares channels) : Unsubscribed station sealed { e with channels } where
  old := unsubscribed.old
  present := unsubscribed.present
  no_handlers kind number feeds :=
    unsubscribed.no_handlers kind number (spares kind number station feeds)
  still := unsubscribed.still

theorem detached (unsubscribed : Unsubscribed station sealed e) (a : Attachment) :
    Unsubscribed station sealed (e.detach a) :=
  unsubscribed.rechannelled fun _ _ _ feeds => (BridgeState.feeds_detach.mp feeds).1

theorem recounted (unsubscribed : Unsubscribed station sealed e) (id holders : Nat) :
    Unsubscribed station sealed (e.setStation id { e.station id with holders }) := by
  refine unsubscribed.set_station fun own => ?_
  subst own
  exact unsubscribed.still

theorem vacated (unsubscribed : Unsubscribed station sealed e) (slot : Nat) (tenant : Tenant) :
    Unsubscribed station sealed (e.vacate slot tenant) := by
  have emptied : Unsubscribed station sealed
      { e.detach tenant.attachment with slots := e.slots.erase slot } :=
    { unsubscribed.detached tenant.attachment with }
  exact emptied.recounted _ _

theorem filled (unsubscribed : Unsubscribed station sealed e) (slot : Nat) (tenant : Tenant) :
    Unsubscribed station sealed (e.fill slot tenant) := by
  unfold BridgeState.fill
  cases e.slots.get? slot with
  | none => exact { unsubscribed with }
  | some before => exact { unsubscribed.vacated slot before with }

end Unsubscribed

def unsubscription (station : Nat) (sealed : Option (Recompiler × Station)) :
    Invariant (List Nat) where
  swap := sealed.elim .plain fun lock => .at station lock.2
  free id := sealed.isSome = true → id ≠ station
  callable id := sealed.isSome = true → id ≠ station
  holds starting e := station ∉ starting ∧ Unsubscribed station (sealed.map Prod.fst) e
  interrupted starting e := station ∉ starting ∧ Unsubscribed station (sealed.map Prod.fst) e
  withStarting starting id _ := id :: starting
  withHeld starting _ := starting

theorem Unsubscribed.worked {sealed : Option (Recompiler × Station)} {e : BridgeState} {id : Nat}
    (unsubscribed : Unsubscribed station (sealed.map Prod.fst) e)
    (free : sealed.isSome = true → id ≠ station) (recompiler : Recompiler) :
    Unsubscribed station (sealed.map Prod.fst) (e.setRecompiler id recompiler) := by
  refine unsubscribed.set_station fun own r known => ?_
  cases sealed with
  | none => cases known
  | some lock => exact (free rfl own).elim

theorem unsubscription_lawful (station : Nat) (sealed : Option (Recompiler × Station)) :
    (unsubscription station sealed).Lawful where
  plain id free := by
    cases sealed with
    | none => rfl
    | some lock => exact if_neg (free rfl)
  there starting e held id swapped := by
    cases sealed with
    | none => exact (swapped rfl).elim
    | some lock =>
        by_cases own : id = station
        · exact own ▸ held.2.present
        · exact (swapped (if_neg own)).elim
  fresh _ _ held _ := (Nat.ne_of_lt held.2.old).symm
  handlers_callable _ _ held kind number id feeds _ own :=
    held.2.no_handlers kind number (own ▸ feeds)
  called _ _ _ _ may_call _ := may_call
  worked _ _ held _ free r := ⟨held.1, held.2.worked free r⟩
  held _ _ held _ _ := ⟨held.1, held.2.recounted _ _⟩
  released _ _ _ held _ := ⟨held.1, held.2.recounted _ _⟩
  observed _ e held event label :=
    ⟨held.1, { held.2.rechannelled (e.spares_observe event label) with }⟩
  unobserved _ e held event key token _ :=
    ⟨held.1, { held.2.rechannelled (e.spares_unobserve event key token) with }⟩
  registered _ _ held _ _ _ := ⟨held.1, { held.2 with }⟩
  stopped _ _ held _ b _ := ⟨held.1, { held.2.detached b.attachment with }⟩
  vacated _ _ held slot tenant _ := ⟨held.1, held.2.vacated slot tenant⟩
  opened _ e held s _ := by
    have young := Nat.ne_of_lt held.2.old
    have opened := held.2.set_station (s := s) fun own => (young own.symm).elim
    refine ⟨fun member => ?_, { opened with old := Nat.lt_succ_of_lt held.2.old }⟩
    rcases List.mem_cons.mp member with own | earlier
    · exact young own
    · exact held.1 earlier
  attached _ _ id held := by
    refine ⟨held.1, { held.2 with no_handlers := fun kind number feeds => ?_ }⟩
    rcases BridgeState.feeds_attach feeds with earlier | ⟨own, _⟩
    · exact held.2.no_handlers kind number earlier
    · exact held.1 (own ▸ List.mem_cons_self ..)
  placed _ _ _ held _ _ := ⟨fun member => held.1 (List.mem_cons_of_mem _ member), { held.2 with }⟩
  cut _ _ held := held
  unmarked _ _ held _ free r := ⟨held.1, held.2.worked free r⟩
  left _ _ _ held _ := ⟨held.1, held.2.recounted _ _⟩
  failed _ _ _ _ held :=
    ⟨fun member => held.1 (List.mem_cons_of_mem _ member), held.2.recounted _ _⟩

theorem unsubscription_lasting (station : Nat) :
    (unsubscription station none).Lasting [] station where
  lawful := unsubscription_lawful station none
  interrupted_holds _ _ held := held
  permits _ _ _ _ _ _ _ _ _ _ := by
    intro locked
    cases locked
  may_call handler := by
    cases handler with
    | observer => trivial
    | intake =>
        intro locked
        cases locked
  filled _ slot tenant _ held := ⟨held.1, held.2.filled slot tenant⟩
  hold _ _ held := ⟨held.1, held.2.recounted _ _⟩
  work _ _ _ held := ⟨held.1, held.2.set_station fun _ _ known => by cases known⟩
  letGo _ held := ⟨held.1, held.2.recounted _ _⟩
  elsewhere w t same held := {
    left := held.1
    right := {
      old := by
        change station < t.nextStation
        rw [same.nextStation]
        exact held.2.old
      present := by
        change (t.stations.get? station).isSome = true
        rw [same.station]
        exact held.2.present
      no_handlers := by
        intro kind number
        unfold BridgeState.Feeds
        change (number, Handler.intake station) ∉ (t.host.channels.get kind).handlers
        rw [same.channels]
        exact held.2.no_handlers kind number
      still := fun _ known => by cases known } }

noncomputable def sparing (station : Nat) : Nat → Script → Act Unit :=
  checkedScript (fun w step => w.Permits (· ≠ station) step) (throw .outOfFuel)

/-- An act leaves a station alone: its recompiler is afterwards as it was, and the act goes the same
way whatever engine is put behind the station, so it asks the engine for nothing. -/
structure LeavesAlone {α : Type} (station : Nat) (act : Act α) (w : World) : Prop where
  recompiler : ((stateAfter (act w)).station station).recompiler = (w.station station).recompiler
  engine : ∀ other, act (w.withEngines (.at station other)) =
    Action.mapState (World.withEngines (.at station other)) (act w)

/-- No channel has a handler of a station, and neither a step, made directly or on the way, nor the
rest of a broadcast works on it, unless somebody does so directly or the broadcast still reaches a
handler of the station. -/
structure Inert (station : Nat) (w : World) : Prop where
  no_handlers : ∀ kind, ∀ h ∈ (w.host.channels.get kind).handlers, h.2 ≠ .intake station
  step : ∀ depth fuel step, w.Permits (· ≠ station) step →
    LeavesAlone station (perform (sparing station depth) fuel step) w
  broadcast : ∀ depth fuel news (handlers : List (Nat × Handler)),
    (∀ h ∈ handlers, h.2 ≠ .intake station) →
    LeavesAlone station
      (handlers.forM fun h => callHandler (sparing station depth) fuel news h.2) w

theorem sparing_same (station : Nat) (lock : Recompiler × Station) (depth : Nat)
    (starting : List Nat) (script : Script) :
    (unsubscription station (some lock)).Same starting (sparing station depth script)
      (sparing station depth script) := by
  refine (unsubscription_lawful station (some lock)).checkedScript (fun others step w held => ?_)
    depth starting script
  -- Both runs stop at the first step that would work on the station, whatever engine is there.
  by_cases spares : w.Permits (· ≠ station) step
  · have still :
      (w.withEngines (unsubscription station (some lock)).swap).Permits (· ≠ station) step := spares
    rw [check_of_fits spares, check_of_fits still]
    exact ⟨rfl, fun slot work tenant made direct found _ =>
      spares slot work tenant made direct found, held⟩
  · have still :
      ¬ (w.withEngines (unsubscription station (some lock)).swap).Permits (· ≠ station) step :=
      spares
    rw [check_of_unfit spares, check_of_unfit still]
    exact ⟨rfl, held⟩

/-- What goes as itself while a station is sealed leaves it alone. -/
theorem leaves_alone_of_sealed {α : Type} {act : Act α}
    (same : ∀ lock, (w.station station).recompiler = lock.1 →
      (unsubscription station (some lock)).From [] w act act) : LeavesAlone station act w where
  recompiler := by
    -- Any engine will do: what counts is that the recompiler is locked.
    have kept := (same (_, default) rfl).after rfl
    exact kept.2.still _ rfl
  engine other := ((same (_, other) rfl) w rfl).1

theorem Unsubscribed.inert (unsubscribed : Unsubscribed station none w.bridgeState) :
    Inert station w := by
  have locked (lock : Recompiler × Station) (known : (w.station station).recompiler = lock.1) :
      (unsubscription station (some lock)).holds [] w.bridgeState :=
    ⟨List.not_mem_nil, { unsubscribed with
      still := by
        rintro r ⟨⟩
        exact known }⟩
  exact {
    no_handlers := by
      rintro kind ⟨number, handler⟩ member rfl
      exact unsubscribed.no_handlers kind number member
    step := by
      intro depth fuel step spares
      refine leaves_alone_of_sealed fun lock known => ?_
      have lawful := unsubscription_lawful station (some lock)
      exact lawful.step (locked lock known) (sparing_same station lock depth) step
        fun slot work tenant made direct found _ => spares slot work tenant made direct found
    broadcast := by
      intro depth fuel news handlers foreign
      refine leaves_alone_of_sealed fun lock known => ?_
      have lawful := unsubscription_lawful station (some lock)
      refine Together.from_here (locked lock known) (.forM fun h member => ?_)
      apply lawful.call_handler (sparing_same station lock depth)
      obtain ⟨number, handler⟩ := h
      cases handler with
      | observer => trivial
      | intake id =>
          intro _ own
          exact foreign _ member (congrArg Handler.intake own) }

/-- A step that shuts a bridge down while none of its drains runs comes back, and the bridge is
inert for good. -/
def StopsForGood (w : World) (step : Step) : Prop :=
  ∀ slot b, step = .slot slot .shutdown → w.slots.get? slot = some (.bridge b) →
    (w.station b.station).recompiler.compiling = false →
    ∀ depth fuel, ∃ t,
      perform (runScript depth) fuel step w = .ok (.running b.attachment.isActive false) t ∧
      ∀ u, Later b.station t u → Inert b.station u

theorem Ownership.unsubscribed {c : OngoingWork} {e : BridgeState}
    (ownership : Ownership c e) {slot : Nat}
    {b : Bridge} (found : e.slots.get? slot = some (.bridge b)) :
    Unsubscribed b.station none (e.stop slot b) where
  old := ownership.settled slot (.bridge b) found
  present := ownership.present b.station (ownership.settled slot (.bridge b) found)
  no_handlers kind number feeds := by
    obtain ⟨fed, unknown⟩ := BridgeState.feeds_detach.mp feeds
    exact unknown (ownership.in_attachment slot (.bridge b) found kind number fed)
  still r known := by cases known

theorem perform_shutdown (run : Script → Act Unit) (fuel : Nat) {slot : Nat} {b : Bridge}
    (found : w.slots.get? slot = some (.bridge b)) :
    ∃ t, perform run fuel (.slot slot .shutdown) w =
        .ok (.running b.attachment.isActive false) t ∧
          t.bridgeState = w.bridgeState.stop slot b := by
  obtain ⟨t, stops, _, same⟩ := shutdown_goes (g := .plain) slot b w
  refine ⟨t, ?_, same⟩
  change performSlot run fuel slot .shutdown w = _
  unfold performSlot
  rw [Action.bind_of_ok (getting w), found]
  exact stops

/-- In every run, a bridge that is shut down is inert from then on, also in the middle of
broadcasts. -/
theorem shut_down_bridge_inert : Throughout StopsForGood := by
  apply throughout_of_ownership
  intro c w step ownership slot b shut found _ depth fuel
  subst shut
  obtain ⟨t, stops, same⟩ := perform_shutdown (runScript depth) fuel found
  refine ⟨t, stops, fun u later => ?_⟩
  have unsubscribed : Unsubscribed b.station none t.bridgeState := by
    rw [same]
    exact ownership.unsubscribed found
  have held := (unsubscription_lasting b.station).later ⟨List.not_mem_nil, unsubscribed⟩ later
  exact held.2.inert

def spiedUpon : List Step :=
  [.edit (.ensurePackage "/Script/Game"), .edit (.createBlueprint ⟨0, 0⟩ "BP_Door"),
    .observe .newClass "spy" [[("stop", .slot 0 .shutdown)]], .startup ⟨0, 0, false, none⟩]

/-- When a class is announced, the bridge is stopped while nothing is drained, and is told of the
class all the same: it queues the blueprint. -/
theorem stopped_bridge_still_told :
    let before := (topAll 9 {} spiedUpon).2
    let after := (top 9 before (.host
      (.defineClass { name := ⟨"Game", "", "Door"⟩, blueprint := some ⟨0, 0⟩ }))).2
    before.host.channels.newClass.handlers = [(1, .observer "spy" 1), (2, .intake 0)] ∧
      (before.station 0).recompiler.compiling = false ∧
      (before.station 0).recompiler.backlog = {} ∧
      EventKind.all.map (fun kind => (after.host.channels.get kind).subscriberCount) =
        [1, 0, 0, 0, 0] ∧
      (after.station 0).recompiler.backlog = { classes := ⟨[⟨0, 0⟩]⟩ } := by
  decide +kernel

end BlueprintBridge.Session
