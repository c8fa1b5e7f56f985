import BlueprintBridge.Proofs.Session.Throughout
import Mathlib.Data.List.Nodup

/-!
# Who is subscribed to a host

On each channel, the handlers that feed a station are those of the bridges that run and of the
bridges that are being started, one each. All other handlers are observers, and no token of an
observer fits the handler of a bridge.
-/

namespace BlueprintBridge.Session

set_option autoImplicit false

structure Subscriber where
  attachment : Attachment
  station : Nat

def Tenant.subscribers : Tenant → List Subscriber
  | bridge b => [⟨b.attachment, b.station⟩]
  | bare _ => []

structure Subscriptions where
  channels : Channels Handler
  nextSubscriber : Nat
  tokens : Catalog (EventKind × String) Token
  slots : Catalog Nat Tenant

def BridgeState.subscriptions (e : BridgeState) : Subscriptions :=
  ⟨e.channels, e.nextSubscriber, e.tokens, e.slots⟩

def World.subscriptions (w : World) : Subscriptions :=
  ⟨w.host.channels, w.nextSubscriber, w.tokens, w.slots⟩

def Handler.isIntake : Handler → Bool
  | observer _ _ => false
  | intake _ => true

def feeds (c : Channel Handler) : List (Nat × Handler) := c.handlers.filter fun h => h.2.isIntake

namespace Subscriber

def handlersOn (kind : EventKind) (r : Subscriber) : List (Nat × Handler) :=
  (r.attachment.numbers.filter fun n => n.1 = kind).map fun n => (n.2, .intake r.station)

theorem mem_handlers_on {r : Subscriber} {kind : EventKind} {h : Nat × Handler} :
    h ∈ r.handlersOn kind ↔ (kind, h.1) ∈ r.attachment.numbers ∧ h.2 = .intake r.station := by
  unfold handlersOn
  constructor
  · intro member
    obtain ⟨n, filtered, rfl⟩ := List.mem_map.mp member
    obtain ⟨numbered, same⟩ := List.mem_filter.mp filtered
    exact ⟨of_decide_eq_true same ▸ numbered, rfl⟩
  · intro ⟨numbered, same⟩
    refine List.mem_map.mpr ⟨(kind, h.1), List.mem_filter.mpr ⟨numbered, ?_⟩, ?_⟩
    · exact decide_eq_true rfl
    · exact Prod.ext rfl same.symm

theorem is_intake_of_mem {r : Subscriber} {kind : EventKind} {h : Nat × Handler}
    (member : h ∈ r.handlersOn kind) : h.2.isIntake = true := by
  rw [(mem_handlers_on.mp member).2]
  rfl

theorem feeds_append {c after : Channel Handler} {r : Subscriber} {kind : EventKind}
    (handlers : after.handlers = c.handlers ++ r.handlersOn kind) :
    feeds after = feeds c ++ r.handlersOn kind := by
  unfold feeds
  rw [handlers, List.filter_append]
  congr 1
  exact List.filter_eq_self.mpr fun h => is_intake_of_mem

theorem filter_own (r : Subscriber) (kind : EventKind) :
    (r.handlersOn kind).filter (fun h => (kind, h.1) ∉ r.attachment.numbers) = [] := by
  apply List.filter_eq_nil_iff.mpr
  intro h member left
  exact of_decide_eq_true left (mem_handlers_on.mp member).1

theorem filter_others {r : Subscriber} {kind : EventKind} {others : List (Nat × Handler)}
    (apart : ((r.handlersOn kind ++ others).map Prod.fst).Nodup) :
    others.filter (fun h => (kind, h.1) ∉ r.attachment.numbers) = others := by
  rw [List.map_append, List.nodup_append] at apart
  apply List.filter_eq_self.mpr
  intro h member
  apply decide_eq_true
  intro numbered
  have own : (h.1, .intake r.station) ∈ r.handlersOn kind := mem_handlers_on.mpr ⟨numbered, rfl⟩
  have twice : h.1 ∈ (r.handlersOn kind).map Prod.fst := List.mem_map.mpr ⟨_, own, rfl⟩
  exact apart.2.2 h.1 twice h.1 (List.mem_map_of_mem member) rfl

/-- A subscriber listens on all channels, numbered from `first` on. -/
def ListensFrom (first : Nat) (r : Subscriber) : Prop :=
  r.attachment.numbers = EventKind.all.zipIdx first

namespace ListensFrom

variable {first : Nat} {r : Subscriber} {kind : EventKind}

theorem bounds (listens : r.ListensFrom first) :
    ∀ h ∈ r.handlersOn kind, first ≤ h.1 ∧ h.1 < first + EventKind.all.length := by
  intro h member
  have numbered := (mem_handlers_on.mp member).1
  rw [listens] at numbered
  exact ⟨List.le_snd_of_mem_zipIdx numbered, List.snd_lt_add_of_mem_zipIdx numbered⟩

theorem nodup (listens : r.ListensFrom first) : ((r.handlersOn kind).map Prod.fst).Nodup := by
  have ids : ((r.handlersOn kind).map Prod.fst).Sublist (r.attachment.numbers.map Prod.snd) := by
    rw [handlersOn, List.map_map]
    exact List.filter_sublist.map _
  rw [listens, List.zipIdx_map_snd] at ids
  exact (List.nodup_range' ..).sublist ids

end ListensFrom

end Subscriber

def subscribers (slots : Catalog Nat Tenant) : List Subscriber :=
  slots.entries.flatMap fun slot => slot.2.subscribers

/-- On each channel the handlers have numbers of their own, all of them given out already. -/
structure Numbered (channels : Channels Handler) (next : Nat) : Prop where
  apart : ∀ kind, ((channels.get kind).handlers.map Prod.fst).Nodup
  below : ∀ kind, ∀ h ∈ (channels.get kind).handlers, h.1 < next

namespace Numbered

variable {channels after : Channels Handler} {next last : Nat}

theorem grow (numbered : Numbered channels next) {new : EventKind → List (Nat × Handler)}
    (handlers : ∀ kind, (after.get kind).handlers = (channels.get kind).handlers ++ new kind)
    (distinct : ∀ kind, ((new kind).map Prod.fst).Nodup)
    (fresh : ∀ kind, ∀ h ∈ new kind, next ≤ h.1 ∧ h.1 < last) (later : next ≤ last) :
    Numbered after last where
  apart := by
    intro kind
    rw [handlers, List.map_append, List.nodup_append]
    refine ⟨numbered.apart kind, distinct kind, ?_⟩
    intro id earlier other new same
    obtain ⟨h, attached, rfl⟩ := List.mem_map.mp earlier
    obtain ⟨g, started, rfl⟩ := List.mem_map.mp new
    have lower := numbered.below kind h attached
    have higher := (fresh kind g started).1
    omega
  below := by
    intro kind h attached
    rw [handlers] at attached
    rcases List.mem_append.mp attached with earlier | new
    · have lower := numbered.below kind h earlier
      omega
    · exact (fresh kind h new).2

theorem shrink (numbered : Numbered channels next)
    (fewer : ∀ kind, (after.get kind).handlers.Sublist (channels.get kind).handlers) :
    Numbered after next where
  apart kind := (numbered.apart kind).sublist ((fewer kind).map _)
  below kind h attached := numbered.below kind h ((fewer kind).subset attached)

end Numbered

/-- How the channels go with the bridges in the slots and with others that are being started. -/
structure MatchesSlots (others : List Subscriber) (f : Subscriptions) : Prop where
  slots : (f.slots.entries.map Prod.fst).Nodup
  listening : ∀ r ∈ subscribers f.slots ++ others, r.attachment = {} ∨ ∃ first, r.ListensFrom first
  numbered : Numbered f.channels f.nextSubscriber
  fed : ∀ kind, (feeds (f.channels.get kind)).Perm
    ((subscribers f.slots ++ others).flatMap (Subscriber.handlersOn kind))
  tokens : ∀ key token, f.tokens.get? key = some token → token.id < f.nextSubscriber ∧
    ∀ kind, ∀ h ∈ feeds (f.channels.get kind), h.1 ≠ token.id

namespace MatchesSlots

variable {others : List Subscriber} {f : Subscriptions}

theorem observe (matching : MatchesSlots others f) (event : EventKind) (key : EventKind × String)
    (handler : Handler) (observer : handler.isIntake = false) (name : String) :
    MatchesSlots others { f with
      channels := f.channels.set event ((f.channels.get event).subscribe f.nextSubscriber handler)
      nextSubscriber := f.nextSubscriber + 1
      tokens := f.tokens.insert key ⟨f.nextSubscriber, name⟩ } := by
  have handlers (kind : EventKind) : ((f.channels.set event ((f.channels.get event).subscribe
      f.nextSubscriber handler)).get kind).handlers = (f.channels.get kind).handlers ++
        if kind = event then [(f.nextSubscriber, handler)] else [] := by
    rw [Channels.get_set]
    split
    · next same =>
        rw [same]
        rfl
    · exact (List.append_nil _).symm
  have same (kind : EventKind) : feeds ((f.channels.set event ((f.channels.get event).subscribe
      f.nextSubscriber handler)).get kind) = feeds (f.channels.get kind) := by
    unfold feeds
    rw [handlers, List.filter_append]
    split <;> simp [observer]
  exact {
    slots := matching.slots
    listening := matching.listening
    numbered := by
      apply matching.numbered.grow handlers
      · intro kind
        split
        · exact List.nodup_singleton _
        · exact .nil
      · intro kind h new
        split at new
        · rw [List.mem_singleton.mp new]
          exact ⟨Nat.le_refl _, Nat.lt_succ_self _⟩
        · cases new
      · exact Nat.le_succ _
    fed := by
      intro kind
      rw [same]
      exact matching.fed kind
    tokens := by
      intro other token held
      simp only [same]
      rw [Catalog.get?_insert] at held
      split at held
      · cases held
        refine ⟨Nat.lt_succ_self _, fun kind h feeding => ?_⟩
        have lower := matching.numbered.below kind h (List.mem_of_mem_filter feeding)
        simp only
        omega
      · obtain ⟨lower, foreign⟩ := matching.tokens other token held
        exact ⟨Nat.lt_succ_of_lt lower, foreign⟩ }

theorem unobserve (matching : MatchesSlots others f) (event : EventKind) (key : EventKind × String)
    {token : Token} (held : f.tokens.get? key = some token) :
    MatchesSlots others { f with
      channels := f.channels.set event ((f.channels.get event).unsubscribe token).2
      tokens := f.tokens.erase key } := by
  have fewer (kind : EventKind) : ((f.channels.set event
      ((f.channels.get event).unsubscribe token).2).get kind).handlers.Sublist
        (f.channels.get kind).handlers := by
    rw [Channels.get_set]
    split
    · next same =>
        rw [same]
        exact List.filter_sublist
    · exact List.Sublist.refl _
  have same (kind : EventKind) : feeds ((f.channels.set event
      ((f.channels.get event).unsubscribe token).2).get kind) = feeds (f.channels.get kind) := by
    rw [Channels.get_set]
    split
    · next own =>
        subst own
        -- The token fits no handler that feeds a station, so it takes none of them off.
        unfold feeds Channel.unsubscribe
        simp only
        rw [List.filter_comm]
        apply List.filter_eq_self.mpr
        intro h feeding
        apply decide_eq_true
        exact (matching.tokens key token held).2 kind h feeding
    · rfl
  exact {
    slots := matching.slots
    listening := matching.listening
    numbered := matching.numbered.shrink fewer
    fed := by
      intro kind
      rw [same]
      exact matching.fed kind
    tokens := by
      intro other token held
      simp only [same]
      rw [Catalog.get?_erase] at held
      split at held
      · cases held
      · exact matching.tokens other token held }

theorem listen {r : Subscriber} (matching : MatchesSlots others f)
    (listens : r.ListensFrom f.nextSubscriber) {after : Channels Handler}
    (handlers : ∀ kind, (after.get kind).handlers =
      (f.channels.get kind).handlers ++ r.handlersOn kind) :
    MatchesSlots (r :: others) { f with
      channels := after
      nextSubscriber := f.nextSubscriber + EventKind.all.length } where
  slots := matching.slots
  listening := by
    intro other member
    rcases List.mem_append.mp member with placed | starting
    · exact matching.listening other (List.mem_append_left _ placed)
    · rcases List.mem_cons.mp starting with rfl | before
      · exact .inr ⟨f.nextSubscriber, listens⟩
      · exact matching.listening other (List.mem_append_right _ before)
  numbered := matching.numbered.grow handlers (fun _ => listens.nodup) (fun _ => listens.bounds)
    (Nat.le_add_right _ _)
  fed := by
    intro kind
    rw [Subscriber.feeds_append (handlers kind)]
    have middle :
        (subscribers f.slots ++ r :: others).Perm (r :: (subscribers f.slots ++ others)) :=
      List.perm_middle
    apply List.Perm.trans _ (middle.flatMap_right _).symm
    exact ((matching.fed kind).append_right _).trans List.perm_append_comm
  tokens := by
    intro key token held
    obtain ⟨lower, foreign⟩ := matching.tokens key token held
    refine ⟨Nat.lt_add_right _ lower, fun kind h feeding => ?_⟩
    rw [Subscriber.feeds_append (handlers kind)] at feeding
    rcases List.mem_append.mp feeding with earlier | later
    · exact foreign kind h earlier
    · have higher := (listens.bounds h later).1
      omega

theorem attach (matching : MatchesSlots others f) (station : Nat) :
    MatchesSlots
      (⟨(Attachment.attach (.intake station) f.nextSubscriber f.channels).value.1, station⟩ ::
        others)
      { f with
        channels := (Attachment.attach (.intake station) f.nextSubscriber f.channels).value.2
        nextSubscriber := f.nextSubscriber + EventKind.all.length } := by
  have listens : Subscriber.ListensFrom f.nextSubscriber
      ⟨(Attachment.attach (.intake station) f.nextSubscriber f.channels).value.1, station⟩ :=
    Attachment.numbers_attach_to ..
  refine matching.listen listens fun kind => ?_
  rw [Subscriber.handlersOn, listens]
  exact Attachment.handlers_attach_to ..

theorem leave {r : Subscriber} (matching : MatchesSlots (r :: others) f) {after : Channels Handler}
    (handlers : ∀ kind, (after.get kind).handlers =
      (f.channels.get kind).handlers.filter fun h => (kind, h.1) ∉ r.attachment.numbers) :
    MatchesSlots others { f with channels := after } := by
  have feeding (kind : EventKind) : feeds (after.get kind) =
      (feeds (f.channels.get kind)).filter fun h => (kind, h.1) ∉ r.attachment.numbers := by
    unfold feeds
    rw [handlers, List.filter_comm]
  exact {
    slots := matching.slots
    listening := by
      intro other member
      apply matching.listening other
      rcases List.mem_append.mp member with placed | starting
      · exact List.mem_append_left _ placed
      · exact List.mem_append_right _ (List.mem_cons_of_mem _ starting)
    numbered := matching.numbered.shrink fun kind => handlers kind ▸ List.filter_sublist
    fed := by
      intro kind
      have split : (feeds (f.channels.get kind)).Perm (r.handlersOn kind ++
          (subscribers f.slots ++ others).flatMap (Subscriber.handlersOn kind)) :=
        (matching.fed kind).trans (List.perm_middle.flatMap_right _)
      have apart := (split.map Prod.fst).nodup_iff.mp
        ((matching.numbered.apart kind).sublist (List.filter_sublist.map _))
      have filtered := split.filter fun h => (kind, h.1) ∉ r.attachment.numbers
      rw [List.filter_append, r.filter_own, Subscriber.filter_others apart,
        List.nil_append] at filtered
      rw [feeding]
      exact filtered
    tokens := by
      intro key token held
      obtain ⟨lower, foreign⟩ := matching.tokens key token held
      refine ⟨lower, fun kind h still => ?_⟩
      rw [feeding] at still
      exact foreign kind h (List.mem_of_mem_filter still) }

theorem detach {r : Subscriber} (matching : MatchesSlots (r :: others) f) :
    MatchesSlots others { f with channels := (r.attachment.detach f.channels).value.2 } :=
  matching.leave fun _ => congrArg Channel.handlers (Attachment.get_give_back ..)

theorem vacate (matching : MatchesSlots others f) (slot : Nat) :
    MatchesSlots ((f.slots.get? slot).elim [] Tenant.subscribers ++ others)
      { f with slots := f.slots.erase slot } := by
  have moved : (subscribers f.slots ++ others).Perm (subscribers (f.slots.erase slot) ++
      ((f.slots.get? slot).elim [] Tenant.subscribers ++ others)) := by
    cases found : f.slots.get? slot with
    | none =>
        rw [Catalog.erase_of_absent found]
        exact .refl _
    | some tenant =>
        have apart := Catalog.flatMap_perm_erase matching.slots found fun slot => slot.2.subscribers
        rw [Option.elim_some, ← List.append_assoc]
        exact (apart.trans List.perm_append_comm).append_right others
  exact {
    slots := Catalog.nodup_keys_erase matching.slots slot
    listening r member := matching.listening r (moved.mem_iff.mpr member)
    numbered := matching.numbered
    fed kind := (matching.fed kind).trans (moved.flatMap_right _)
    tokens := matching.tokens }

theorem place {slot : Nat} {tenant : Tenant}
    (matching : MatchesSlots (tenant.subscribers ++ others) f)
    (free : f.slots.get? slot = none) :
    MatchesSlots others { f with slots := f.slots.insert slot tenant } := by
  have entries : (f.slots.insert slot tenant).entries = f.slots.entries ++ [(slot, tenant)] := by
    rw [Catalog.insert, Catalog.erase_of_absent free]
  have moved : (subscribers f.slots ++ (tenant.subscribers ++ others)).Perm
      (subscribers (f.slots.insert slot tenant) ++ others) := by
    rw [subscribers, subscribers, entries, List.flatMap_append, List.flatMap_singleton,
      List.append_assoc]
  exact {
    slots := Catalog.nodup_keys_insert matching.slots slot tenant
    listening r member := matching.listening r (moved.mem_iff.mpr member)
    numbered := matching.numbered
    fed kind := (matching.fed kind).trans (moved.flatMap_right _)
    tokens := matching.tokens }

theorem add_idle (matching : MatchesSlots others f) (station : Nat) :
    MatchesSlots (⟨{}, station⟩ :: others) f where
  slots := matching.slots
  listening := by
    intro r member
    rcases List.mem_append.mp member with placed | starting
    · exact matching.listening r (List.mem_append_left _ placed)
    · rcases List.mem_cons.mp starting with rfl | other
      · exact .inl rfl
      · exact matching.listening r (List.mem_append_right _ other)
  numbered := matching.numbered
  fed kind := by
    have fed := matching.fed kind
    rw [List.flatMap_append] at fed ⊢
    exact fed
  tokens := matching.tokens

theorem drop_idle {station : Nat} (matching : MatchesSlots (⟨{}, station⟩ :: others) f) :
    MatchesSlots others f where
  slots := matching.slots
  listening := by
    intro r member
    rcases List.mem_append.mp member with placed | starting
    · exact matching.listening r (List.mem_append_left _ placed)
    · exact matching.listening r (List.mem_append_right _ (List.mem_cons_of_mem _ starting))
  numbered := matching.numbered
  fed kind := by
    have fed := matching.fed kind
    rw [List.flatMap_append] at fed ⊢
    exact fed
  tokens := matching.tokens

theorem empty_slot {e : BridgeState} (matching : MatchesSlots others e.subscriptions)
    {slot : Nat} {tenant : Tenant}
    (found : e.slots.get? slot = some tenant) :
    MatchesSlots others (e.vacate slot tenant).subscriptions := by
  have alone := matching.vacate slot
  rw [show e.subscriptions.slots.get? slot = some tenant from found] at alone
  cases tenant with
  | bare => exact alone
  | bridge => exact alone.detach

theorem stop {e : BridgeState} (matching : MatchesSlots others e.subscriptions)
    {slot : Nat} {b : Bridge}
    (found : e.slots.get? slot = some (.bridge b)) :
    MatchesSlots others (e.stop slot b).subscriptions := by
  let idle : Tenant := .bridge { b with attachment := {} }
  have alone :
      MatchesSlots (idle.subscribers ++ others) (e.vacate slot (.bridge b)).subscriptions :=
    (matching.empty_slot found).add_idle b.station
  have placed := alone.place (Catalog.get?_erase_self e.slots slot)
  rw [show (e.vacate slot (.bridge b)).subscriptions.slots = e.slots.erase slot from rfl,
    Catalog.insert_erase] at placed
  exact placed

theorem take_slot {e : BridgeState} {tenant : Tenant}
    (matching : MatchesSlots (⟨tenant.attachment, tenant.station⟩ :: others) e.subscriptions)
    {slot : Nat} (free : e.slots.get? slot = none) :
    MatchesSlots others (e.place slot tenant).subscriptions := by
  have known : MatchesSlots (tenant.subscribers ++ others) e.subscriptions := by
    cases tenant with
    | bare => exact matching.drop_idle
    | bridge => exact matching
  exact known.place free

end MatchesSlots

def subscription : Invariant (List Subscriber) where
  swap := .plain
  free _ := True
  callable _ := True
  holds others e := MatchesSlots others e.subscriptions
  interrupted _ _ := True
  withStarting others id a := ⟨a, id⟩ :: others
  withHeld others _ := others

theorem subscription_lawful : subscription.Lawful where
  plain _ _ := rfl
  there _ _ _ _ swapped := (swapped rfl).elim
  fresh _ _ _ := trivial
  handlers_callable _ _ _ _ _ _ _ := trivial
  called _ _ _ _ _ _ := trivial
  worked _ _ matching _ _ _ := matching
  held _ _ matching _ _ := matching
  released _ _ _ matching _ := matching
  observed _ _ matching event label := matching.observe event (event, label) _ rfl _
  unobserved _ _ matching event key _ held := matching.unobserve event key held
  registered _ _ matching _ _ _ := matching
  stopped _ _ matching _ _ found := matching.stop found
  vacated _ _ matching _ _ found := matching.empty_slot found
  opened _ e matching _ _ := matching.add_idle e.nextStation
  attached _ _ id matching := matching.drop_idle.attach id
  placed _ _ _ matching _ free := matching.take_slot free
  cut _ _ _ := trivial
  unmarked _ _ _ _ _ _ := trivial
  left _ _ _ _ _ := trivial
  failed _ _ _ _ _ := trivial

/-- After a step that comes back the channels still match the slots. -/
theorem MatchesSlots.after_step {others : List Subscriber} {w t : World}
    (matching : MatchesSlots others w.subscriptions)
    {depth fuel : Nat} {step : Step} {reply : Reply}
    (ran : perform (runScript depth) fuel step w = .ok reply t) :
    MatchesSlots others t.subscriptions := by
  have runs := subscription_lawful.run_script (fun _ w step _ => w.permits_all step) depth
  have made : subscription.From others w (perform (runScript depth) fuel step)
      (perform (runScript depth) fuel step) :=
    subscription_lawful.step matching runs step (w.permits_all step)
  have ends := (made w rfl).2
  rw [ran] at ends
  exact ends

end BlueprintBridge.Session
