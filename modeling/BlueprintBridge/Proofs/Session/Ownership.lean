import BlueprintBridge.Proofs.Session.Throughout

/-!
# Who owns the stations of a session

No two slots hold one station, and a station that is being started is in no slot. The handlers of a
station in a slot, or of one that is being started, are all known to its attachment, so that giving
the attachment back takes every one of them off. This holds wherever a step is made in a run, also
after a start-up that was cut short; only the handlers that it leaves behind are in no attachment.
-/

namespace BlueprintBridge.Session

set_option autoImplicit false

/-- The stations that are being started, with what is attached of them, and how often a station is
held by whoever works on it. -/
structure OngoingWork where
  starting : List (Nat × Attachment) := []
  working : Nat → Nat := fun _ => 0

namespace OngoingWork

def start (c : OngoingWork) (id : Nat) (a : Attachment) : OngoingWork :=
  ⟨(id, a) :: c.starting, fun other => if other = id then 0 else c.working other⟩

def hold (c : OngoingWork) (id : Nat) : OngoingWork :=
  ⟨c.starting, fun other => c.working other + if other = id then 1 else 0⟩

theorem working_start_self (c : OngoingWork) (id : Nat) (a : Attachment) :
    (c.start id a).working id = 0 := if_pos rfl

theorem working_start_other (c : OngoingWork) {id other : Nat} (a : Attachment)
    (apart : other ≠ id) :
    (c.start id a).working other = c.working other := if_neg apart

theorem working_hold (c : OngoingWork) (id other : Nat) :
    (c.hold id).working other = c.working other + if other = id then 1 else 0 := rfl

end OngoingWork

structure Ownership (c : OngoingWork) (e : BridgeState) : Prop where
  single : ∀ slot other tenant neighbour, e.slots.get? slot = some tenant →
    e.slots.get? other = some neighbour → tenant.station = neighbour.station → slot = other
  settled : ∀ slot tenant, e.slots.get? slot = some tenant → tenant.station < e.nextStation
  unslotted : ∀ slot tenant, e.slots.get? slot = some tenant →
    ∀ r ∈ c.starting, r.1 ≠ tenant.station
  numbered : ∀ r ∈ c.starting, r.1 < e.nextStation
  apart : (c.starting.map Prod.fst).Nodup
  fed : ∀ kind number id, e.Feeds kind number id → id < e.nextStation
  in_attachment : ∀ slot tenant, e.slots.get? slot = some tenant →
    ∀ kind number, e.Feeds kind number tenant.station → (kind, number) ∈ tenant.attachment.numbers
  starting_in_attachment : ∀ r ∈ c.starting, ∀ kind number, e.Feeds kind number r.1 →
    (kind, number) ∈ r.2.numbers
  present : ∀ id, id < e.nextStation → e.Has id
  counted : ∀ r ∈ c.starting, (e.station r.1).holders = c.working r.1 + 1

def ownership : Invariant OngoingWork where
  swap := .plain
  free _ := True
  callable _ := True
  holds := Ownership
  interrupted := Ownership
  withStarting := OngoingWork.start
  withHeld := OngoingWork.hold

namespace Ownership

variable {c : OngoingWork} {e : BridgeState} {id : Nat}

theorem set_station (ownership : Ownership c e) (s : Station) {working : Nat → Nat}
    (counted : ∀ r ∈ c.starting, ((e.setStation id s).station r.1).holders = working r.1 + 1) :
    Ownership ⟨c.starting, working⟩ (e.setStation id s) where
  single := ownership.single
  settled := ownership.settled
  unslotted := ownership.unslotted
  numbered := ownership.numbered
  apart := ownership.apart
  fed := ownership.fed
  in_attachment := ownership.in_attachment
  starting_in_attachment := ownership.starting_in_attachment
  present other below := (ownership.present other below).set_station id s
  counted := counted

theorem rechannelled (ownership : Ownership c e) {channels : Channels Handler}
    (spares : e.Spares channels) : Ownership c { e with channels } where
  single := ownership.single
  settled := ownership.settled
  unslotted := ownership.unslotted
  numbered := ownership.numbered
  apart := ownership.apart
  fed kind number id feeds := ownership.fed kind number id (spares kind number id feeds)
  in_attachment slot tenant found kind number feeds :=
    ownership.in_attachment slot tenant found kind number (spares kind number _ feeds)
  starting_in_attachment r member kind number feeds :=
    ownership.starting_in_attachment r member kind number (spares kind number _ feeds)
  present := ownership.present
  counted := ownership.counted

theorem worked (ownership : Ownership c e) (id : Nat) (r : Recompiler) :
    Ownership c (e.setRecompiler id r) := by
  refine ownership.set_station _ fun started member => ?_
  rw [BridgeState.station_set_station]
  split
  · next same =>
      rw [← ownership.counted started member, same]
  · exact ownership.counted started member

theorem held (ownership : Ownership c e) (id : Nat) : Ownership (c.hold id) (e.hold id) := by
  refine ownership.set_station _ fun r member => (e.holders_hold id r.1).trans ?_
  rw [ownership.counted r member]
  omega

theorem released (ownership : Ownership (c.hold id) e) : Ownership c (e.letGo id) := by
  refine ownership.set_station _ fun r member => (e.holders_let_go id r.1).trans ?_
  rw [ownership.counted r member, c.working_hold]
  omega

theorem reslotted (ownership : Ownership c e) {slots : Catalog Nat Tenant}
    (known : ∀ slot tenant, slots.get? slot = some tenant →
      ∃ before, e.slots.get? slot = some before ∧ before.station = tenant.station)
    (in_attachment : ∀ slot tenant, slots.get? slot = some tenant →
      ∀ kind number, e.Feeds kind number tenant.station →
        (kind, number) ∈ tenant.attachment.numbers) :
    Ownership c { e with slots } where
  single slot other tenant neighbour found there same := by
    obtain ⟨before, first, own⟩ := known slot tenant found
    obtain ⟨beside, second, others⟩ := known other neighbour there
    have shared := own.trans (same.trans others.symm)
    exact ownership.single slot other before beside first second shared
  settled slot tenant found := by
    obtain ⟨before, first, own⟩ := known slot tenant found
    exact own ▸ ownership.settled slot before first
  unslotted slot tenant found := by
    obtain ⟨before, first, own⟩ := known slot tenant found
    exact own ▸ ownership.unslotted slot before first
  numbered := ownership.numbered
  apart := ownership.apart
  fed := ownership.fed
  in_attachment := in_attachment
  starting_in_attachment := ownership.starting_in_attachment
  present := ownership.present
  counted := ownership.counted

theorem detached (ownership : Ownership c e) (a : Attachment) : Ownership c (e.detach a) :=
  ownership.rechannelled fun _ _ _ feeds => (BridgeState.feeds_detach.mp feeds).1

theorem stopped (ownership : Ownership c e) {slot : Nat} {b : Bridge}
    (found : e.slots.get? slot = some (.bridge b)) : Ownership c (e.stop slot b) := by
  refine (ownership.detached b.attachment).reslotted ?_ ?_
  · intro other tenant there
    rw [Catalog.get?_insert] at there
    split at there
    · next same =>
        cases there
        exact ⟨.bridge b, same ▸ found, rfl⟩
    · exact ⟨tenant, there, rfl⟩
  · intro other tenant there kind number feeds
    obtain ⟨fed, unknown⟩ := BridgeState.feeds_detach.mp feeds
    rw [Catalog.get?_insert] at there
    split at there
    · cases there
      exact (unknown (ownership.in_attachment slot (.bridge b) found kind number fed)).elim
    · exact ownership.in_attachment other tenant there kind number fed

theorem vacated (ownership : Ownership c e) {slot : Nat} {tenant : Tenant}
    (found : e.slots.get? slot = some tenant) : Ownership c (e.vacate slot tenant) := by
  have erased (other : Nat) (neighbour : Tenant)
      (there : (e.slots.erase slot).get? other = some neighbour) :
      e.slots.get? other = some neighbour := by
    rw [Catalog.get?_erase] at there
    split at there
    · cases there
    · exact there
  have emptied : Ownership c { e.detach tenant.attachment with slots := e.slots.erase slot } := by
    refine (ownership.detached tenant.attachment).reslotted ?_ ?_
    · exact fun other neighbour there => ⟨neighbour, erased other neighbour there, rfl⟩
    · intro other neighbour there kind number feeds
      exact ownership.in_attachment other neighbour (erased other neighbour there) kind number
        (BridgeState.feeds_detach.mp feeds).1
  refine emptied.set_station _ fun started member => ?_
  rw [BridgeState.station_set_station,
    if_neg (ownership.unslotted slot tenant found started member)]
  exact emptied.counted started member

theorem ne_of_starting {a : Attachment} (ownership : Ownership (c.start id a) e) :
    ∀ r ∈ c.starting, r.1 ≠ id := by
  intro r member same
  exact (List.nodup_cons.mp ownership.apart).1 (List.mem_map.mpr ⟨r, member, same⟩)

theorem dismissed {a : Attachment} (ownership : Ownership (c.start id a) e) : Ownership c e where
  single := ownership.single
  settled := ownership.settled
  unslotted slot tenant found r member :=
    ownership.unslotted slot tenant found r (List.mem_cons_of_mem _ member)
  numbered r member := ownership.numbered r (List.mem_cons_of_mem _ member)
  apart := (List.nodup_cons.mp ownership.apart).2
  fed := ownership.fed
  in_attachment := ownership.in_attachment
  starting_in_attachment r member :=
    ownership.starting_in_attachment r (List.mem_cons_of_mem _ member)
  present := ownership.present
  counted r member := by
    have counted := ownership.counted r (List.mem_cons_of_mem _ member)
    rwa [c.working_start_other a (ownership.ne_of_starting r member)] at counted

theorem opened (ownership : Ownership c e) {s : Station} (one : s.holders = 1) :
    Ownership (c.start e.nextStation {}) (e.openStation s) where
  single := ownership.single
  settled slot tenant found := Nat.lt_succ_of_lt (ownership.settled slot tenant found)
  unslotted slot tenant found r member := by
    rcases List.mem_cons.mp member with rfl | earlier
    · exact (Nat.ne_of_lt (ownership.settled slot tenant found)).symm
    · exact ownership.unslotted slot tenant found r earlier
  numbered r member := by
    rcases List.mem_cons.mp member with rfl | earlier
    · exact Nat.lt_succ_self _
    · exact Nat.lt_succ_of_lt (ownership.numbered r earlier)
  apart := by
    refine List.nodup_cons.mpr ⟨fun member => ?_, ownership.apart⟩
    obtain ⟨r, earlier, same⟩ := List.mem_map.mp member
    exact Nat.ne_of_lt (ownership.numbered r earlier) same
  fed kind number id feeds := Nat.lt_succ_of_lt (ownership.fed kind number id feeds)
  in_attachment := ownership.in_attachment
  starting_in_attachment r member kind number feeds := by
    rcases List.mem_cons.mp member with rfl | earlier
    · -- No channel has a handler of a station before it is opened.
      exact (Nat.lt_irrefl _ (ownership.fed kind number _ feeds)).elim
    · exact ownership.starting_in_attachment r earlier kind number feeds
  present id below := by
    rcases Nat.lt_succ_iff_lt_or_eq.mp below with earlier | rfl
    · exact (ownership.present id earlier).set_station _ s
    · unfold BridgeState.Has BridgeState.openStation BridgeState.setStation
      rw [Catalog.get?_insert_self]
      rfl
  counted r member := by
    have station : (e.openStation s).station r.1 =
      if r.1 = e.nextStation then s else e.station r.1 := e.station_set_station ..
    rw [station]
    rcases List.mem_cons.mp member with rfl | earlier
    · rw [if_pos rfl, one, c.working_start_self]
    · have other := Nat.ne_of_lt (ownership.numbered r earlier)
      rw [if_neg other, c.working_start_other {} other]
      exact ownership.counted r earlier

theorem one_each (ownership : Ownership (c.start id {}) e) :
    Ownership (c.start id (e.attachment id)) (e.attach id) where
  single := ownership.single
  settled := ownership.settled
  unslotted slot tenant found r member := by
    have strangers := ownership.unslotted slot tenant found
    rcases List.mem_cons.mp member with rfl | earlier
    · exact strangers (id, {}) (List.mem_cons_self ..)
    · exact strangers r (List.mem_cons_of_mem _ earlier)
  numbered r member := by
    rcases List.mem_cons.mp member with rfl | earlier
    · exact ownership.numbered (id, {}) (List.mem_cons_self ..)
    · exact ownership.numbered r (List.mem_cons_of_mem _ earlier)
  apart := ownership.apart
  fed kind number other feeds := by
    rcases BridgeState.feeds_attach feeds with earlier | ⟨rfl, _⟩
    · exact ownership.fed kind number other earlier
    · exact ownership.numbered (other, {}) (List.mem_cons_self ..)
  in_attachment slot tenant found kind number feeds := by
    rcases BridgeState.feeds_attach feeds with earlier | ⟨own, _⟩
    · exact ownership.in_attachment slot tenant found kind number earlier
    · exact (ownership.unslotted slot tenant found (id, {}) (List.mem_cons_self ..) own.symm).elim
  starting_in_attachment r member kind number feeds := by
    rcases BridgeState.feeds_attach feeds with earlier | ⟨own, numbered⟩
    · rcases List.mem_cons.mp member with rfl | others
      · cases ownership.starting_in_attachment (id, {}) (List.mem_cons_self ..) kind number earlier
      · exact ownership.starting_in_attachment r (List.mem_cons_of_mem _ others) kind number earlier
    · rcases List.mem_cons.mp member with rfl | others
      · exact numbered
      · exact (ownership.ne_of_starting r others own).elim
  present := ownership.present
  counted r member := by
    rcases List.mem_cons.mp member with rfl | earlier
    · exact ownership.counted (id, {}) (List.mem_cons_self ..)
    · exact ownership.counted r (List.mem_cons_of_mem _ earlier)

theorem placed {tenant : Tenant}
    (ownership : Ownership (c.start tenant.station tenant.attachment) e) {slot : Nat}
    (free : e.slots.get? slot = none) : Ownership c (e.place slot tenant) := by
  have started : (tenant.station, tenant.attachment) ∈
    (c.start tenant.station tenant.attachment).starting := List.mem_cons_self ..
  have known (other : Nat) (neighbour : Tenant)
      (found : (e.slots.insert slot tenant).get? other = some neighbour) :
      other = slot ∧ neighbour = tenant ∨ other ≠ slot ∧ e.slots.get? other = some neighbour := by
    rw [Catalog.get?_insert] at found
    split at found
    · next same =>
        cases found
        exact .inl ⟨same, rfl⟩
    · next apart => exact .inr ⟨apart, found⟩
  have stranger {other : Nat} {neighbour : Tenant} (found : e.slots.get? other = some neighbour) :
      tenant.station ≠ neighbour.station :=
    ownership.unslotted other neighbour found _ started
  exact { ownership.dismissed with
    single := by
      intro one other first second found there same
      rcases known one first found with ⟨rfl, rfl⟩ | ⟨_, before⟩
      · rcases known other second there with ⟨rfl, rfl⟩ | ⟨_, beside⟩
        · rfl
        · exact (stranger beside same).elim
      · rcases known other second there with ⟨rfl, rfl⟩ | ⟨_, beside⟩
        · exact (stranger before same.symm).elim
        · exact ownership.single one other first second before beside same
    settled := by
      intro other neighbour found
      rcases known other neighbour found with ⟨_, rfl⟩ | ⟨_, before⟩
      · exact ownership.numbered _ started
      · exact ownership.settled other neighbour before
    unslotted := by
      intro other neighbour found r member
      rcases known other neighbour found with ⟨_, rfl⟩ | ⟨_, before⟩
      · exact ownership.ne_of_starting r member
      · exact ownership.dismissed.unslotted other neighbour before r member
    in_attachment := by
      intro other neighbour found kind number feeds
      rcases known other neighbour found with ⟨_, rfl⟩ | ⟨_, before⟩
      · exact ownership.starting_in_attachment _ started kind number feeds
      · exact ownership.in_attachment other neighbour before kind number feeds }

theorem failed {a : Attachment} (ownership : Ownership (c.start id a) e) :
    Ownership c (e.letGo id) := by
  refine ownership.dismissed.set_station _ fun r member => ?_
  rw [BridgeState.station_set_station, if_neg (ownership.ne_of_starting r member)]
  exact ownership.dismissed.counted r member

end Ownership

theorem ownership_lawful : ownership.Lawful where
  plain _ _ := rfl
  there _ _ _ _ swapped := (swapped rfl).elim
  fresh _ _ _ := trivial
  handlers_callable _ _ _ _ _ _ _ := trivial
  called _ _ _ _ _ _ := trivial
  worked _ _ held id _ r := held.worked id r
  held _ _ held id _ := held.held id
  released _ _ _ held _ := held.released
  observed _ e held event label :=
    { held.rechannelled (e.spares_observe event label) with }
  unobserved _ e held event key token _ :=
    { held.rechannelled (e.spares_unobserve event key token) with }
  registered _ _ held _ _ _ := { held with }
  stopped _ _ held _ _ found := held.stopped found
  vacated _ _ held _ _ found := held.vacated found
  opened _ _ held _ one := held.opened one
  attached _ _ _ held := held.one_each
  placed _ _ _ held _ free := held.placed free
  cut _ _ held := held
  unmarked _ _ held id _ r := held.worked id r
  left _ _ _ held _ := held.released
  failed _ _ _ _ held := held.failed

theorem initial_ownership (verbosity : Option Level) :
    Ownership {} (World.bridgeState { verbosity }) where
  single _ _ _ _ found := by cases found
  settled _ _ found := by cases found
  unslotted _ _ found := by cases found
  numbered _ member := absurd member List.not_mem_nil
  apart := .nil
  fed kind _ _ feeds := by cases kind <;> cases feeds
  in_attachment _ _ found := by cases found
  starting_in_attachment _ member := absurd member List.not_mem_nil
  present _ below := absurd below (Nat.not_lt_zero _)
  counted _ member := absurd member List.not_mem_nil

theorem top_all_ownership (fuel : Nat) {w : World} (held : Ownership {} w.bridgeState)
    (steps : List Step) : Ownership {} (topAll fuel w steps).2.bridgeState := by
  induction steps generalizing w with
  | nil => exact held
  | cons step rest ih =>
      have after : Ownership {} (top fuel w step).2.bridgeState := by
        rw [top_world]
        exact ownership_lawful.after_step (w := { w with trace := [] })
          (fun _ w step _ => w.permits_all step) (fun _ _ held => held) held fuel fuel step
      exact ih after

/-- What follows from ownership holds of every step of every run. -/
theorem throughout_of_ownership {fits : World → Step → Prop}
    (vouched : ∀ c (w : World) step, Ownership c w.bridgeState → fits w step) :
    Throughout fits := by
  intro verbosity fuel steps step alarm w
  have held : Ownership {} w.bridgeState :=
    top_all_ownership fuel (initial_ownership verbosity) steps
  refine ⟨vouched {} w step held, ?_⟩
  -- Ownership holds wherever a step is made, so the alarm of the checked run is never raised.
  have runs (c : OngoingWork) (script : Script) :
      ownership.Same c (runScript fuel script) (checkedScript fits alarm fuel script) := by
    rw [run_script_eq]
    refine ownership_lawful.checkedScript (fun c step w held => ?_) fuel c script
    have fitting : checkStep fits alarm step (w.withEngines .plain) =
        .ok () (w.withEngines .plain) := by
      rw [w.with_engines_plain]
      exact check_of_fits (vouched c w step held)
    have passes : checkStep (fun _ _ => True) (throw .outOfFuel) step w = .ok () w :=
      check_of_fits trivial
    rw [passes]
    exact ⟨fitting, w.permits_all step, held⟩
  have alike : ownership.From {} w (perform (runScript fuel) fuel step)
      (perform (checkedScript fits alarm fuel) fuel step) :=
    ownership_lawful.step held runs step (w.permits_all step)
  have same := (alike w rfl).1
  rw [show ownership.swap = EngineSwap.plain from rfl, w.with_engines_plain] at same
  exact same.trans (map_state_id _)

end BlueprintBridge.Session
