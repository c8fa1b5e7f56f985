import BlueprintBridge.Proofs.Event.Channel
import BlueprintBridge.Proofs.Session.Subscription
import BlueprintBridge.Proofs.Session.Station

/-!
# The five subscriptions of a bridge live and die together

Between the steps of a session, each channel has one handler for each bridge that runs, besides the
handlers of observers. A start-up that is refused by its registry does nothing at all, and stopping
a bridge takes exactly its own handlers off, once.
-/

namespace BlueprintBridge.Session

set_option autoImplicit false

def Reply.isCutShort : Reply → Bool
  | .failed (.unwound _) => true
  | .failed .outOfFuel => true
  | _ => false

variable {fuel slot : Nat} {w t : World} {b : Bridge}

theorem top_matching (matching : MatchesSlots [] w.subscriptions) {step : Step}
    (calm : (top fuel w step).1.reply.isCutShort = false) :
    MatchesSlots [] (top fuel w step).2.subscriptions := by
  unfold top at calm ⊢
  cases ran : perform (runScript fuel) fuel step { w with trace := [] } with
  | ok reply t => exact MatchesSlots.after_step (w := { w with trace := [] }) matching ran
  | error interruption t =>
      rw [ran] at calm
      cases interruption with
      | unwound | outOfFuel => cases calm

theorem top_all_matching (matching : MatchesSlots [] w.subscriptions) {steps : List Step}
    (calm : ∀ report ∈ (topAll fuel w steps).1, report.reply.isCutShort = false) :
    MatchesSlots [] (topAll fuel w steps).2.subscriptions := by
  induction steps generalizing w with
  | nil => exact matching
  | cons step rest ih =>
      apply ih
      · apply top_matching matching
        exact calm _ (List.mem_cons_self ..)
      · exact fun report later => calm report (List.mem_cons_of_mem _ later)

theorem matching_initial (verbosity : Option Level) :
    MatchesSlots [] (World.subscriptions { verbosity }) where
  slots := .nil
  listening r member := absurd member List.not_mem_nil
  numbered := {
    apart := by
      intro kind
      cases kind <;> exact .nil
    below := by
      intro kind h attached
      cases kind <;> cases attached }
  fed kind := by
    cases kind <;> exact .nil
  tokens key token held := by
    cases held

def Bridge.subscriber (b : Bridge) : Subscriber := ⟨b.attachment, b.station⟩

def Tenant.running? : Tenant → Option Bridge
  | bridge b => if b.attachment.isActive then some b else none
  | bare _ => none

def World.running (w : World) : List Bridge :=
  w.slots.entries.filterMap fun slot => slot.2.running?

def observers (c : Channel Handler) : List (Nat × Handler) :=
  c.handlers.filter fun h => !h.2.isIntake

/-- Each channel has one handler for each bridge that runs, besides the observers. -/
structure World.OneEach (w : World) : Prop where
  handlers : ∀ kind, (feeds (w.host.channels.get kind)).Perm
    (w.running.flatMap fun b => b.subscriber.handlersOn kind)
  one : ∀ kind, ∀ b ∈ w.running,
    ∃ number, b.subscriber.handlersOn kind = [(number, .intake b.station)]
  count : ∀ kind, (w.host.channels.get kind).subscriberCount =
    (observers (w.host.channels.get kind)).length + w.running.length

theorem eq_empty_of_idle {a : Attachment} (idle : a.isActive = false) : a = {} := by
  obtain ⟨tokens⟩ := a
  cases tokens with
  | nil => rfl
  | cons => cases idle

theorem Tenant.handlers_on (tenant : Tenant) (kind : EventKind) :
    tenant.subscribers.flatMap (Subscriber.handlersOn kind) =
      tenant.running?.toList.flatMap fun b => b.subscriber.handlersOn kind := by
  cases tenant with
  | bare => rfl
  | bridge b =>
      cases active : b.attachment.isActive with
      | true => simp [subscribers, running?, active, Bridge.subscriber]
      | false => simp [subscribers, running?, eq_empty_of_idle active, Attachment.isActive,
          Subscriber.handlersOn, Attachment.numbers]

theorem handlers_of_running (slots : Catalog Nat Tenant) (kind : EventKind) :
    (subscribers slots).flatMap (Subscriber.handlersOn kind) =
      (slots.entries.filterMap fun slot => slot.2.running?).flatMap fun b =>
        b.subscriber.handlersOn kind := by
  obtain ⟨entries⟩ := slots
  unfold subscribers
  induction entries with
  | nil => rfl
  | cons slot rest ih =>
      rw [List.flatMap_cons, List.flatMap_append, ih, Tenant.handlers_on, List.filterMap_cons]
      cases slot.2.running? with
      | none => rfl
      | some b => exact congrArg (· ++ _) (List.append_nil _)

theorem length_of_singletons {α β : Type} {f : α → List β} {items : List α}
    (one : ∀ a ∈ items, ∃ b, f a = [b]) : (items.flatMap f).length = items.length := by
  induction items with
  | nil => rfl
  | cons a rest ih =>
      obtain ⟨b, single⟩ := one a (List.mem_cons_self ..)
      have others := ih fun other member => one other (List.mem_cons_of_mem _ member)
      rw [List.flatMap_cons, single, List.length_append, others, List.length_cons, Nat.add_comm]
      rfl

theorem mem_subscribers {slots : Catalog Nat Tenant} {tenant : Tenant} {r : Subscriber}
    (found : slots.get? slot = some tenant) (member : r ∈ tenant.subscribers) :
    r ∈ subscribers slots := by
  obtain ⟨pair, first, rfl⟩ := Option.map_eq_some_iff.mp found
  exact List.mem_flatMap.mpr ⟨pair, List.mem_of_find?_eq_some first, member⟩

theorem Subscriber.ListensFrom.only {first : Nat} {r : Subscriber} (listens : r.ListensFrom first)
    (kind : EventKind) :
    ∃ number, r.handlersOn kind = [(number, .intake r.station)] ∧
      ∀ n, (kind, n) ∈ r.attachment.numbers ↔ n = number := by
  unfold handlersOn
  rw [show r.attachment.numbers = _ from listens]
  cases kind <;> simp [EventKind.all]

theorem MatchesSlots.one_each (matching : MatchesSlots [] w.subscriptions) : w.OneEach := by
  have one : ∀ kind, ∀ b ∈ w.running,
      ∃ number, b.subscriber.handlersOn kind = [(number, .intake b.station)] := by
    intro kind b running
    obtain ⟨slot, member, runs⟩ := List.mem_filterMap.mp running
    cases held : slot.2 with
    | bare =>
        rw [held] at runs
        cases runs
    | bridge other =>
        rw [held, Tenant.running?] at runs
        split at runs
        · next active =>
            cases runs
            have placed : b.subscriber ∈ subscribers w.slots ++ [] := by
              apply List.mem_append_left
              exact List.mem_flatMap.mpr
                ⟨slot, member, by rw [held]; exact List.mem_singleton_self _⟩
            rcases matching.listening b.subscriber placed with idle | ⟨first, listens⟩
            · rw [show b.attachment = {} from idle] at active
              cases active
            · obtain ⟨number, only, _⟩ := listens.only kind
              exact ⟨number, only⟩
        · cases runs
  have handlers (kind : EventKind) : (feeds (w.host.channels.get kind)).Perm
      (w.running.flatMap fun b => b.subscriber.handlersOn kind) := by
    have fed := matching.fed kind
    rw [List.append_nil, handlers_of_running] at fed
    exact fed
  refine ⟨handlers, one, fun kind => ?_⟩
  have each : (w.running.flatMap fun b => b.subscriber.handlersOn kind).length =
      w.running.length := by
    apply length_of_singletons
    intro b running
    obtain ⟨number, only⟩ := one kind b running
    exact ⟨_, only⟩
  rw [Channel.subscriberCount, ← each, ← (handlers kind).length_eq]
  rw [List.length_eq_length_filter_add fun h : Nat × Handler => h.2.isIntake, Nat.add_comm]
  rfl

/-- A start-up answers with the refusal of its registry if that is what happened, and then nothing
else did. -/
structure Refusal (setup : Setup) (w : World) (report : Report) (t : World) : Prop where
  unchanged : ∀ error, report.reply = .failed (.registry error) → t = { w with trace := [] }
  refused_iff : (∃ error, report.reply = .failed (.registry error)) ↔
    setup.settings?.isSome = true ∧ (w.registry setup.registry).hasFactory .managed = true

theorem install_hook_error_iff (r : CompilerRegistry) :
    (∃ error, r.installHook = .error error) ↔ r.hasFactory .managed = true := by
  unfold CompilerRegistry.installHook CompilerRegistry.registerFactory
  cases r.hasFactory .managed with
  | true => simp [Except.map]
  | false => simp [Except.map]

section

variable {run : Script → Act Unit} {setup : Setup} {settings : Settings}

theorem startup_invalid (given : setup.settings? = none) (w : World) :
    performStartup run fuel setup w = .ok (.failed .invalidSettings) w := by
  unfold performStartup
  rw [Action.bind_of_ok (getting w), given]
  rfl

theorem startup_refused (given : setup.settings? = some settings) {error : RegistryError}
    (hooked : (w.registry setup.registry).installHook = .error error) :
    performStartup run fuel setup w = .ok (.failed (.registry error)) w := by
  unfold performStartup
  rw [Action.bind_of_ok (getting w), given, hooked]
  rfl

theorem startup_outcome (given : setup.settings? = some settings) {registry : CompilerRegistry}
    (hooked : (w.registry setup.registry).installHook = .ok registry) {reply : Reply}
    (ran : performStartup run fuel setup w = .ok reply t) :
    ∃ outcome, reply = .outcome outcome := by
  unfold performStartup at ran
  rw [Action.bind_of_ok (getting w), given, hooked] at ran
  obtain ⟨_, _, _, rest⟩ := Action.bind_eq_ok.mp ran
  obtain ⟨_, _, _, rest⟩ := Action.bind_eq_ok.mp rest
  obtain ⟨bridge, _, _, rest⟩ := Action.bind_eq_ok.mp rest
  obtain ⟨_, _, _, rest⟩ := Action.bind_eq_ok.mp rest
  cases rest
  exact ⟨bridge.startup, rfl⟩

end

theorem top_startup (setup : Setup) (w : World) :
    Refusal setup w (top fuel w (.startup setup)).1 (top fuel w (.startup setup)).2 := by
  let fresh : World := { w with trace := [] }
  have hook := install_hook_error_iff (w.registry setup.registry)
  cases given : setup.settings? with
  | none =>
      have ran : perform (runScript fuel) fuel (.startup setup) fresh =
          .ok (.failed .invalidSettings) fresh := startup_invalid given fresh
      unfold top
      rw [ran]
      exact ⟨fun _ _ => rfl, by simp [given]⟩
  | some settings =>
      cases hooked : (w.registry setup.registry).installHook with
      | error error =>
          have ran : perform (runScript fuel) fuel (.startup setup) fresh =
              .ok (.failed (.registry error)) fresh := startup_refused given hooked
          unfold top
          rw [ran]
          exact ⟨fun _ _ => rfl, by simp [given, hook.mp ⟨error, hooked⟩]⟩
      | ok registry =>
          have free : (w.registry setup.registry).hasFactory .managed = false := by
            apply Bool.eq_false_iff.mpr
            intro taken
            obtain ⟨error, refused⟩ := hook.mpr taken
            rw [hooked] at refused
            cases refused
          have another : ∀ error, (top fuel w (.startup setup)).1.reply ≠
              .failed (.registry error) := by
            intro error
            unfold top
            cases ran : perform (runScript fuel) fuel (.startup setup) { w with trace := [] } with
            | ok reply t =>
                obtain ⟨outcome, rfl⟩ := startup_outcome (w := fresh) given hooked ran
                simp
            | error interruption t =>
                cases interruption with
                | unwound | outOfFuel => simp
          constructor
          · exact fun error refused => (another error refused).elim
          · rw [free]
            simp [another]

theorem World.notes_eq (w : World) (records : List Record) :
    ∃ trace, w.notes records = { w with trace } := by
  induction records generalizing w with
  | nil => exact ⟨w.trace, rfl⟩
  | cons record rest ih =>
      obtain ⟨trace, noted⟩ := ih (w.note record)
      refine ⟨trace, noted.trans ?_⟩
      unfold note
      split <;> rfl

/-- Who is detached is not attached afterwards, and nothing else but the channels has changed. -/
theorem detach_bridge_eq (b : Bridge) (w : World) :
    ∃ trace, detachBridge b w = .ok { b with attachment := {} } { w with
      host := { w.host with channels := (b.attachment.detach w.host.channels).value.2 }
      trace } := by
  unfold detachBridge
  split
  · let t : World :=
      { w with host := { w.host with channels := (b.attachment.detach w.host.channels).value.2 } }
    obtain ⟨before, noted⟩ := t.notes_eq (b.attachment.detach w.host.channels).records
    obtain ⟨trace, shown⟩ := ({ t with trace := before } : World).notes_eq
      [⟨.info, s!"Managed compiler module shut down ({(b.attachment.detach
        w.host.channels).value.1} subscriptions removed)"⟩]
    refine ⟨trace, ?_⟩
    change EStateM.Result.ok _
      (World.note (t.notes (b.attachment.detach w.host.channels).records) _) = _
    rw [noted]
    exact congrArg _ shown
  · next idle =>
      obtain ⟨station, registry, ⟨tokens⟩, startup⟩ := b
      cases tokens with
      | nil => exact ⟨w.trace, rfl⟩
      | cons => exact (idle rfl).elim

structure Detached (b : Bridge) (before after : Channels Handler) : Prop where
  own : b.attachment.isActive = true → ∀ kind, ∃ earlier number later,
    b.subscriber.handlersOn kind = [(number, .intake b.station)] ∧
    (before.get kind).handlers = earlier ++ (number, .intake b.station) :: later ∧
    after.get kind = { before.get kind with handlers := earlier ++ later }
  idle : b.attachment.isActive = false → after = before

theorem MatchesSlots.detached (matching : MatchesSlots [] w.subscriptions)
    (found : w.slots.get? slot = some (.bridge b)) :
    Detached b w.host.channels (b.attachment.detach w.host.channels).value.2 where
  own active kind := by
    have placed : b.subscriber ∈ subscribers w.slots :=
        mem_subscribers found (List.mem_singleton_self _)
    rcases matching.listening b.subscriber (List.mem_append_left _ placed)
      with idle | ⟨first, listens⟩
    · rw [show b.attachment = {} from idle] at active
      cases active
    · obtain ⟨number, only, numbered⟩ := listens.only kind
      have feeding : (number, .intake b.station) ∈ feeds (w.host.channels.get kind) := by
        apply (matching.fed kind).mem_iff.mpr
        refine List.mem_flatMap.mpr ⟨b.subscriber, List.mem_append_left _ placed, ?_⟩
        rw [only]
        exact List.mem_singleton_self _
      let token : Token := ⟨number, ""⟩
      have fits : (number, Handler.intake b.station).1 = token.id := rfl
      obtain ⟨earlier, later, split, left⟩ :=
        Channel.unsubscribe_own (matching.numbered.apart kind) (List.mem_of_mem_filter feeding) fits
      have same : (w.host.channels.get kind).handlers.filter
            (fun h => (kind, h.1) ∉ b.subscriber.attachment.numbers) =
          (w.host.channels.get kind).handlers.filter fun h => h.1 ≠ token.id := by
        apply List.filter_congr
        intro h _
        rw [Bool.eq_iff_iff]
        simp only [decide_eq_true_eq]
        exact not_congr (numbered h.1)
      refine ⟨earlier, number, later, only, split, ?_⟩
      apply (Attachment.get_give_back _ _ kind).trans
      exact (congrArg (Channel.mk (w.host.channels.get kind).name) same).trans left
  idle active := by
    rw [eq_empty_of_idle active]
    rfl

structure Stopped (slot : Nat) (b : Bridge) (w : World) (report : Report) (t : World) : Prop where
  reply : report.reply = .running b.attachment.isActive false
  channels : Detached b w.host.channels t.host.channels
  host : t.host = { w.host with channels := t.host.channels }
  tenant : t.slots.get? slot = some (.bridge { b with attachment := {} })
  slots : ∀ other, other ≠ slot → t.slots.get? other = w.slots.get? other
  frame : t = { w with host := t.host, slots := t.slots, trace := t.trace }

structure Dropped (slot : Nat) (b : Bridge) (w : World) (report : Report) (t : World) : Prop where
  reply : report.reply = .nothing
  channels : Detached b w.host.channels t.host.channels
  host : t.host = { w.host with channels := t.host.channels }
  free : t.slots.get? slot = none
  slots : ∀ other, other ≠ slot → t.slots.get? other = w.slots.get? other
  station : t.station b.station =
    { w.station b.station with holders := (w.station b.station).holders - 1 }
  stations : ∀ other, other ≠ b.station → t.station other = w.station other
  frame : t = { w with
    host := t.host, slots := t.slots, stations := t.stations, trace := t.trace }

theorem MatchesSlots.stopped (matching : MatchesSlots [] w.subscriptions)
    (found : w.slots.get? slot = some (.bridge b)) :
    Stopped slot b w (top fuel w (.slot slot .shutdown)).1
      (top fuel w (.slot slot .shutdown)).2 := by
  obtain ⟨trace, detaching⟩ := detach_bridge_eq b { w with trace := [] }
  let t : World := { w with
    host := { w.host with channels := (b.attachment.detach w.host.channels).value.2 }
    slots := w.slots.insert slot (.bridge { b with attachment := {} })
    trace }
  have ran : perform (runScript fuel) fuel (.slot slot .shutdown) { w with trace := [] } =
      .ok (.running b.attachment.isActive false) t := by
    change performSlot _ _ _ _ _ = _
    unfold performSlot
    rw [Action.bind_of_ok (getting _)]
    simp only [found]
    exact Action.bind_of_ok detaching
  unfold top
  rw [ran]
  exact {
    reply := rfl
    channels := matching.detached found
    host := rfl
    tenant := Catalog.get?_insert_self ..
    slots := fun other different => Catalog.get?_insert_of_ne _ _ different
    frame := rfl }

theorem MatchesSlots.dropped (matching : MatchesSlots [] w.subscriptions)
    (found : w.slots.get? slot = some (.bridge b)) :
    Dropped slot b w (top fuel w (.slot slot .drop)).1 (top fuel w (.slot slot .drop)).2 := by
  obtain ⟨trace, detaching⟩ :=
    detach_bridge_eq b { w with slots := w.slots.erase slot, trace := [] }
  let t : World := { w with
    host := { w.host with channels := (b.attachment.detach w.host.channels).value.2 }
    slots := w.slots.erase slot
    trace }
  have ran : perform (runScript fuel) fuel (.slot slot .drop) { w with trace := [] } =
      .ok .nothing (t.letGo b.station) := by
    change performSlot _ _ _ _ _ = _
    unfold performSlot
    rw [Action.bind_of_ok (getting _)]
    simp only [found]
    have emptied : change (fun w => { w with slots := w.slots.erase slot })
        { w with trace := [] } = .ok () { w with slots := w.slots.erase slot, trace := [] } := rfl
    have let_go : dropTenant (some (.bridge b))
        { w with slots := w.slots.erase slot, trace := [] } = .ok () (t.letGo b.station) :=
      Action.bind_of_ok detaching
    exact (Action.bind_of_ok emptied).trans (Action.bind_of_ok let_go)
  unfold top
  rw [ran]
  exact {
    reply := rfl
    channels := matching.detached found
    host := rfl
    free := Catalog.get?_erase_self ..
    slots := fun other different => Catalog.get?_erase_of_ne _ different
    station := (World.station_setStation t b.station b.station _).trans (if_pos rfl)
    stations := by
      intro other different
      exact (World.station_setStation t b.station other _).trans (if_neg different)
    frame := rfl }

theorem top_free_slot (free : w.slots.get? slot = none) (step : SlotStep) :
    (top fuel w (.slot slot step)).1.reply = .failed .noSlot ∧
      (top fuel w (.slot slot step)).2 = { w with trace := [] } := by
  have ran : perform (runScript fuel) fuel (.slot slot step) { w with trace := [] } =
      .ok (.failed .noSlot) { w with trace := [] } := by
    change performSlot _ _ _ _ _ = _
    unfold performSlot
    rw [Action.bind_of_ok (getting _)]
    simp only [free]
    rfl
  unfold top
  rw [ran]
  exact ⟨rfl, rfl⟩

/-- What is known of the subscriptions of bridges between two steps of a session, and of what the
next step may do to them. -/
structure World.LiveTogether (fuel : Nat) (w : World) : Prop where
  one_each : w.OneEach
  refusal : ∀ setup, Refusal setup w (top fuel w (.startup setup)).1 (top fuel w (.startup setup)).2
  stopped : ∀ slot b, w.slots.get? slot = some (.bridge b) →
    Stopped slot b w (top fuel w (.slot slot .shutdown)).1 (top fuel w (.slot slot .shutdown)).2
  /-- Who is stopped already is not stopped again. -/
  stopped_again : ∀ slot b, w.slots.get? slot = some (.bridge b) →
    let t := (top fuel w (.slot slot .shutdown)).2
    let again := top fuel t (.slot slot .shutdown)
    again.1.reply = .running false false ∧ again.2.host = t.host ∧
      (∀ other, again.2.slots.get? other = t.slots.get? other) ∧
      again.2 = { t with slots := again.2.slots, trace := again.2.trace }
  dropped : ∀ slot b, w.slots.get? slot = some (.bridge b) →
    Dropped slot b w (top fuel w (.slot slot .drop)).1 (top fuel w (.slot slot .drop)).2
  dropped_again : ∀ slot b, w.slots.get? slot = some (.bridge b) →
    let t := (top fuel w (.slot slot .drop)).2
    let again := top fuel t (.slot slot .drop)
    again.1.reply = .failed .noSlot ∧ again.2 = { t with trace := [] }

theorem Stopped.nothing {report : Report} (stopped : Stopped slot b w report t)
    (idle : b.attachment = {}) (found : w.slots.get? slot = some (.bridge b)) :
    report.reply = .running false false ∧ t.host = w.host ∧
      (∀ other, t.slots.get? other = w.slots.get? other) ∧
      t = { w with slots := t.slots, trace := t.trace } := by
  have inactive : b.attachment.isActive = false := by
    rw [idle]
    rfl
  have host : t.host = w.host := by
    rw [stopped.host, stopped.channels.idle inactive]
  refine ⟨inactive ▸ stopped.reply, host, ?_, ?_⟩
  · intro other
    by_cases same : other = slot
    · rw [same, stopped.tenant, found, ← idle]
    · exact stopped.slots other same
  · have frame := stopped.frame
    rw [host] at frame
    exact frame

theorem MatchesSlots.live_together (matching : MatchesSlots [] w.subscriptions) :
    w.LiveTogether fuel where
  one_each := matching.one_each
  refusal setup := top_startup setup w
  stopped slot b found := matching.stopped found
  stopped_again slot b found := by
    have stopped : Stopped slot b w (top fuel w (.slot slot .shutdown)).1
        (top fuel w (.slot slot .shutdown)).2 := matching.stopped found
    have after : MatchesSlots [] (top fuel w (.slot slot .shutdown)).2.subscriptions := by
      apply top_matching matching
      rw [stopped.reply]
      rfl
    exact (after.stopped stopped.tenant).nothing rfl stopped.tenant
  dropped slot b found := matching.dropped found
  dropped_again slot b found := top_free_slot (matching.dropped found).free .drop

/-- In a session none of whose steps is cut short, each channel of the host has one handler for each
bridge that runs, besides the observers; and these handlers come and go together. -/
theorem subscriptions_live_together (verbosity : Option Level) (fuel : Nat) (steps : List Step)
    (calm : ∀ report ∈ (topAll fuel { verbosity } steps).1, report.reply.isCutShort = false) :
    (topAll fuel { verbosity } steps).2.LiveTogether fuel :=
  (top_all_matching (matching_initial verbosity) calm).live_together

/-- Three bridges, one of which an observer stops in the middle of an announcement; one start-up is
refused, and bridges are stopped and dropped again. -/
def busySession : List Step :=
  [.observe .newClass "spy" [[("stop", .slot 0 .shutdown)]],
    .startup ⟨0, 0, false, none⟩, .startup ⟨1, 0, true, none⟩, .startup ⟨1, 1, true, none⟩,
    .host (.defineClass { name := ⟨"Game", "", "Door"⟩ }), .slot 0 .shutdown, .slot 0 .drop,
    .startup ⟨2, 2, false, none⟩, .slot 1 .drop, .slot 1 .drop]

theorem busy_session_lives_together :
    let session := topAll 9 { verbosity := some .warn } busySession
    (∀ report ∈ session.1, report.reply.isCutShort = false) ∧ session.2.running.length = 1 ∧
      EventKind.all.map (fun kind => (session.2.host.channels.get kind).subscriberCount) =
        [2, 1, 1, 1, 1] ∧
      session.2.LiveTogether 9 := by
  have calm : ∀ report ∈ (topAll 9 { verbosity := some .warn } busySession).1,
      report.reply.isCutShort = false := by decide +kernel
  exact ⟨calm, by decide +kernel, by decide +kernel,
    subscriptions_live_together (some .warn) 9 busySession calm⟩

end BlueprintBridge.Session
